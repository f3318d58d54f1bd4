import SchemaAtlas.Keyed
import SchemaAtlas.Text.Lines
import SchemaAtlas.Yaml.Node

/-!
# Places in a YAML text

A `Cursor` is a place in a text, with its line and column and with what the text in front of it
decides: whether the name of a mapping entry may begin here, and which nodes have been labelled.
The readers of this file pass blanks and comments and scan the scalars; those of a block continue
only on lines that are indented deeper than the block.
-/

namespace SchemaAtlas.Yaml

open Text

/-- A place in a text. -/
structure Cursor where
  rest : List Char
  column : Nat := 0
  line : Nat := 0
  /-- The name of an entry may begin here. -/
  nameAllowed : Bool := true
  /-- The nodes that have been labelled so far. -/
  labels : Keyed Node := []

/-- A reader that may fail. -/
abbrev Reader (α : Type) :=
  StateT Cursor Option α

/-- The end of a line. -/
def isBreak (c : Char) : Bool :=
  c == '\n' || c == '\u2028' || c == '\u2029'

/-- A blank, a tab, the end of a line or the end of the text. -/
def isGap : Option Char → Bool
  | none => true
  | some c => c == ' ' || c == '\t' || isBreak c

/-- Brackets and the comma, which end a plain scalar between brackets. -/
def isFlowMark (c : Char) : Bool :=
  [',', '[', ']', '\x7b', '\x7d'].contains c

/-- Characters that a text may hold. -/
def isAllowed (c : Char) : Bool :=
  let n := c.toNat
  n == 9 || n == 10 || n == 13 || (32 ≤ n && n ≤ 126) || n == 0x85 || (0xA0 ≤ n && n ≤ 0xD7FF) ||
    (0xE000 ≤ n && n ≤ 0xFFFD) || 0x10000 ≤ n

namespace Cursor

/-- The next character. -/
def head? (c : Cursor) : Option Char :=
  c.rest.head?

/-- The place behind the next character. -/
def next (c : Cursor) : Cursor :=
  match c.rest with
  | [] => c
  | d :: rest =>
    if isBreak d then { c with rest := rest, column := 0, line := c.line + 1 }
    else { c with rest := rest, column := if d == '\uFEFF' then c.column else c.column + 1 }

/-- The place behind the next characters. -/
def advance (c : Cursor) : Nat → Cursor
  | 0 => c
  | count + 1 => c.next.advance count

/-- The place behind the characters that satisfy `p`. -/
def skip (c : Cursor) (p : Char → Bool) : Cursor :=
  c.advance (c.rest.takeWhile p).length

/-- A line here that starts or ends a document. -/
def atMarker (c : Cursor) : Bool :=
  let mark := c.rest.take 3
  c.column == 0 && (mark == ['-', '-', '-'] || mark == ['.', '.', '.']) && isGap c.rest[3]?

/-- The place behind blanks, comments and line ends. -/
def skipGapFrom (inFlow : Bool) : Nat → Cursor → Cursor
  | 0, c => c
  | fuel + 1, c =>
    let c := c.skip (· == ' ')
    let c := if c.head? == some '#' then c.skip fun d => !isBreak d else c
    if c.head?.any isBreak then
      skipGapFrom inFlow fuel { c.next with nameAllowed := c.nameAllowed || !inFlow }
    else c

/-- The place behind blanks, comments and line ends. -/
def skipGap (inFlow : Bool) (c : Cursor) : Cursor :=
  skipGapFrom inFlow (c.rest.length + 1) c

end Cursor

/-- The reading fails. -/
def refuse {α : Type} : Reader α :=
  failure

/-- Blanks, comments and line ends are passed. -/
def passGap (inFlow : Bool) : Reader Unit :=
  modify (Cursor.skipGap inFlow)

/-- The next character, which has to exist. -/
def takeChar : Reader Char := do
  let c ← get
  match c.head? with
  | some d => set c.next; return d
  | none => refuse

/-! ### Line ends inside scalars -/

/-- What the line ends between two parts of a scalar stand for: a blank for a single one, else the
ends behind the first. -/
def foldedBreaks (first : Char) (more : List Char) : List Char :=
  (if first != '\n' then [first] else if more.isEmpty then [' '] else []) ++ more

/-- The line ends and blanks up to the next character of a scalar, unless a marker stands between
them. -/
def breaksFrom (blank : Char → Bool) : Nat → Cursor → Option (List Char × Cursor)
  | 0, c => some ([], c)
  | fuel + 1, c =>
    if c.atMarker then none
    else
      let c := c.skip blank
      match c.head? with
      | some d =>
        if isBreak d then (breaksFrom blank fuel c.next).map fun found => (d :: found.1, found.2)
        else some ([], c)
      | none => some ([], c)

/-! ### Plain scalars -/

/-- The number of characters of a plain scalar up to the next blank. -/
def plainLength (inFlow : Bool) : List Char → Nat
  | [] => 0
  | c :: rest =>
    let endsName := isGap rest.head? || (inFlow && rest.head?.any isFlowMark)
    if isGap (some c) || (c == ':' && endsName) || (inFlow && (c == '?' || isFlowMark c)) then 0
    else plainLength inFlow rest + 1

/-- What stands between two parts of a plain scalar, empty at its end, and the place behind it. -/
def plainGap (c : Cursor) : List Char × Cursor :=
  let blanks := c.rest.takeWhile (· == ' ')
  let c := c.advance blanks.length
  match c.head? with
  | some d =>
    if isBreak d then
      let c := { c.next with nameAllowed := true }
      match breaksFrom (· == ' ') (c.rest.length + 1) c with
      | some (more, c) => (foldedBreaks d more, c)
      | none => ([], c)
    else (blanks, c)
  | none => (blanks, c)

/-- A plain scalar from the place on, where `gap` stands behind what has been read of it. -/
def plainFrom (inFlow : Bool) (least : Int) (gap : List Char) : Nat → Cursor → List Char × Cursor
  | 0, c => ([], c)
  | fuel + 1, c =>
    let count := plainLength inFlow c.rest
    if c.head? == some '#' || count == 0 then ([], c)
    else
      let part := gap ++ c.rest.take count
      let (gap, c) := plainGap { c.advance count with nameAllowed := false }
      if gap.isEmpty || c.head? == some '#' || (!inFlow && (c.column : Int) < least) then (part, c)
      else
        let (more, c) := plainFrom inFlow least gap fuel c
        (part ++ more, c)

/-- A plain scalar may begin at the place. -/
def startsPlain (inFlow : Bool) (c : Cursor) : Bool :=
  match c.rest with
  | [] => false
  | d :: rest =>
    let isMark := "-?:,[]\x7b\x7d#&*!|>'\"%@`".toList.contains d
    (!isGap (some d) && !isMark) ||
      (!isGap rest.head? && (d == '-' || (!inFlow && (d == '?' || d == ':'))))

/-- The text of a plain scalar, which in a block continues only at columns from `least` on. -/
def plainText (inFlow : Bool) (least : Int) : Reader String := do
  let c ← get
  if !startsPlain inFlow c then refuse
  let (text, c) := plainFrom inFlow least [] (c.rest.length + 1) c
  set c
  return .ofList text

/-! ### Quoted scalars -/

/-- The character that a letter behind a backslash stands for. -/
def escapeOf? : Char → Option Char
  | '0' => some '\x00'
  | 'a' => some '\x07'
  | 'b' => some '\x08'
  | 't' | '\t' => some '\t'
  | 'n' => some '\n'
  | 'v' => some '\x0B'
  | 'f' => some '\x0C'
  | 'r' => some '\r'
  | 'e' => some '\x1B'
  | ' ' => some ' '
  | '"' => some '"'
  | '\\' => some '\\'
  | '/' => some '/'
  | 'N' => some '\u0085'
  | '_' => some '\u00A0'
  | 'L' => some '\u2028'
  | 'P' => some '\u2029'
  | _ => none

/-- The number of digits behind a letter that stands for a code point. -/
def codeLength? : Char → Option Nat
  | 'x' => some 2
  | 'u' => some 4
  | 'U' => some 8
  | _ => none

/-- The value of a digit to the base sixteen. -/
def hexValue? (c : Char) : Option Nat :=
  if c.isDigit then some (c.toNat - 48)
  else if 'a' ≤ c && c ≤ 'f' then some (c.toNat - 87)
  else if 'A' ≤ c && c ≤ 'F' then some (c.toNat - 55)
  else none

/-- The character of a code point in digits to the base sixteen. -/
def codeChar? (digits : List Char) : Option Char := do
  let values ← digits.mapM hexValue?
  let code := values.foldl (fun n v => 16 * n + v) 0
  if code.isValidChar then some (.ofNat code) else none

/-- The line ends and blanks inside a quoted scalar. -/
def quotedBreaks : Reader (List Char) := do
  let c ← get
  match breaksFrom (fun d => d == ' ' || d == '\t') (c.rest.length + 1) c with
  | some (breaks, c) => set c; return breaks
  | none => refuse

/-- What an escape stands for. -/
def escaped : Reader (List Char) := do
  let d ← takeChar
  match escapeOf? d, codeLength? d with
  | some e, _ => return [e]
  | none, some count =>
    let c ← get
    let digits := c.rest.take count
    match if digits.length == count then codeChar? digits else none with
    | some e => set (c.advance count); return [e]
    | none => refuse
  | none, none => if isBreak d then quotedBreaks else refuse

/-- A quoted scalar up to its closing quote. -/
def quotedFrom (quote : Char) : Nat → Reader (List Char)
  | 0 => refuse
  | fuel + 1 => do
    let c ← get
    let blanks := c.rest.takeWhile fun d => d == ' ' || d == '\t'
    set (c.advance blanks.length)
    let d ← takeChar
    if isBreak d then
      let more ← quotedBreaks
      return foldedBreaks d more ++ (← quotedFrom quote fuel)
    else if d == quote then
      if quote == '\'' && (← get).head? == some '\'' then
        modify Cursor.next
        return blanks ++ '\'' :: (← quotedFrom quote fuel)
      else return blanks
    else if d == '\\' && quote == '"' then
      let found ← escaped
      return blanks ++ found ++ (← quotedFrom quote fuel)
    else return blanks ++ d :: (← quotedFrom quote fuel)

/-- The text of a quoted scalar. -/
def quotedText : Reader String := do
  let quote ← takeChar
  let text ← quotedFrom quote ((← get).rest.length + 1)
  modify fun c => { c with nameAllowed := false }
  return .ofList text

/-! ### Block scalars -/

/-- How a block scalar ends. -/
inductive Ending where
  | one
  | none
  | all
  deriving DecidableEq

/-- The marks behind the sign of a block scalar: how it ends, and its depth if it is given. -/
def blockMarks : List Char → Option (Ending × Option Nat × List Char)
  | cs =>
    let ending := fun (c : Char) =>
      if c == '+' then some Ending.all else if c == '-' then some Ending.none else Option.none
    let depth := fun (c : Char) => if '1' ≤ c && c ≤ '9' then some (c.toNat - 48) else Option.none
    match cs with
    | a :: rest =>
      match ending a, depth a with
      | some e, _ =>
        match rest with
        | b :: more =>
          match depth b with
          | some n => some (e, some n, more)
          | Option.none => some (e, Option.none, rest)
        | [] => some (e, Option.none, rest)
      | Option.none, some n =>
        match rest with
        | b :: more =>
          match ending b with
          | some e => some (e, some n, more)
          | Option.none => some (.one, some n, rest)
        | [] => some (.one, some n, rest)
      | Option.none, Option.none =>
        if isGap (some a) then some (.one, Option.none, cs) else Option.none
    | [] => some (.one, Option.none, [])

/-- The blank lines at the start of a block scalar, and the depth of the deepest blank. -/
def leadingBreaks : Nat → Nat → Cursor → List Char × Nat × Cursor
  | 0, deepest, c => ([], deepest, c)
  | fuel + 1, deepest, c =>
    match c.head? with
    | some ' ' => leadingBreaks fuel (max deepest c.next.column) c.next
    | some d =>
      if isBreak d then
        let (breaks, deepest, c) := leadingBreaks fuel deepest c.next
        (d :: breaks, deepest, c)
      else ([], deepest, c)
    | none => ([], deepest, c)

/-- The place at the given depth, or at the first character in front of it that is no blank. -/
def toDepth (depth : Nat) (c : Cursor) : Cursor :=
  c.advance (min (depth - c.column) (c.rest.takeWhile (· == ' ')).length)

/-- The blank lines in front of the next line of a block scalar. -/
def blockBreaks (depth : Nat) : Nat → Cursor → List Char × Cursor
  | 0, c => ([], c)
  | fuel + 1, c =>
    let c := toDepth depth c
    match c.head? with
    | some d =>
      if isBreak d then
        let (breaks, c) := blockBreaks depth fuel c.next
        (d :: breaks, c)
      else ([], c)
    | none => ([], c)

/-- The lines of a block scalar, where `breaks` are the blank lines in front of the place. -/
def blockLines (folded : Bool) (ending : Ending) (depth : Nat) (breaks : List Char) :
    Nat → Cursor → List Char × Cursor
  | 0, c => ([], c)
  | fuel + 1, c =>
    if c.column != depth || c.rest.isEmpty then
      (if ending == .all then breaks else [], c)
    else
      let line := c.rest.takeWhile fun d => !isBreak d
      let behind := c.advance line.length
      let stop := behind.head?.toList
      let (after, next) := blockBreaks depth (behind.rest.length + 1) behind.next
      let opensBlank := fun (d : Option Char) => d == some ' ' || d == some '\t'
      if next.column == depth && !next.rest.isEmpty then
        let joint :=
          if folded && stop == ['\n'] && !opensBlank line.head? && !opensBlank next.head? then
            if after.isEmpty then [' '] else []
          else stop
        let (more, c) := blockLines folded ending depth after fuel next
        (breaks ++ line ++ joint ++ more, c)
      else
        let tail := match ending with
          | .none => []
          | .one => stop
          | .all => stop ++ after
        (breaks ++ line ++ tail, next)

/-- The text of a block scalar in a block at column `indent`. -/
def blockText (indent : Int) : Reader String := do
  let sign ← takeChar
  match blockMarks (← get).rest with
  | none => refuse
  | some (ending, given, rest) =>
    let c ← get
    let c := (c.advance (c.rest.length - rest.length)).skip (· == ' ')
    let c := if c.head? == some '#' then c.skip fun d => !isBreak d else c
    if !c.rest.isEmpty && !c.head?.any isBreak then refuse
    let c := c.next
    let least := max (indent + 1).toNat 1
    let (breaks, depth, c) := match given with
      | some n =>
        let depth := least + n - 1
        let (breaks, c) := blockBreaks depth (c.rest.length + 1) c
        (breaks, depth, c)
      | none =>
        let (breaks, deepest, c) := leadingBreaks (c.rest.length + 1) 0 c
        (breaks, max least deepest, c)
    let (text, c) := blockLines (sign == '>') ending depth breaks (c.rest.length + 1) c
    set { c with nameAllowed := true }
    return .ofList text

end SchemaAtlas.Yaml

import SchemaAtlas.Keyed
import SchemaAtlas.Pattern.Basic
import SchemaAtlas.Text.CharacterName
import SchemaAtlas.Text.Identifier
import SchemaAtlas.Text.Integer

/-!
# Reading patterns

`Pattern.ofText` reads the written form of a pattern: alternatives between bars, sequences of parts
with the marks that repeat them, sets in brackets, groups in parentheses, and escapes behind a
backslash.  It refuses what is not well formed, such as a repetition of nothing, an open group, or a
look behind at a text of no fixed width; three more `PatternFault`s have wordings of their own.
-/

namespace SchemaAtlas

open Text

/-- Why a text is no pattern. -/
inductive PatternFault where
  | malformed
  /-- The whole pattern is to know both the first 128 code points only and all of them. -/
  | mixedAlphabets
  | oversizedBound
  /-- A bound has more digits than are converted. -/
  | tooManyDigits (count : Nat)
  deriving DecidableEq

/-- The wording of a fault. -/
def PatternFault.message : PatternFault → String
  | malformed => "the pattern is not well formed"
  | mixedAlphabets => "ASCII and UNICODE flags are incompatible"
  | oversizedBound => "the repetition number is too large"
  | tooManyDigits count =>
    "Exceeds the limit (" ++ toString mostDigits ++
      " digits) for integer string conversion: value has " ++ toString count ++
      " digits; use sys.set_int_max_str_digits() to increase the limit"

namespace Pattern

/-- What a pattern is written with: characters, some behind a backslash. -/
inductive Token where
  | plain (c : Char)
  | escaped (c : Char)
  /-- A backslash at the end of the text. -/
  | dangling
  deriving DecidableEq

/-- The tokens of a text. -/
def tokens : List Char → List Token
  | [] => []
  | ['\\'] => [.dangling]
  | '\\' :: c :: rest => .escaped c :: tokens rest
  | c :: rest => .plain c :: tokens rest

/-- How characters and anchors are understood. -/
structure Modes where
  comparison : Comparison := {}
  multiline : Bool := false
  dotAll : Bool := false
  verbose : Bool := false

/-- A reading in progress. -/
structure Draft where
  rest : List Token
  modes : Modes := {}
  /-- The whole pattern is to know the first 128 code points only. -/
  wantsAscii : Bool := false
  /-- The whole pattern is to know all code points. -/
  wantsUnicode : Bool := false
  /-- Nothing in the pattern may be repeated. -/
  isTemplate : Bool := false
  /-- How many groups have been opened. -/
  groups : Nat := 0
  /-- Groups that are not closed yet. -/
  openGroups : List Nat := []
  /-- How many groups there were in front of the innermost look behind. -/
  visible : Option Nat := none
  names : Keyed Nat := []
  /-- The widths of the closed groups. -/
  widths : List (Nat × Widths) := []
  /-- The number of groups that conditions ask for. -/
  neededGroups : Nat := 0
  /-- Something is repeated. -/
  repeats : Bool := false
  /-- A look behind sees a text of no fixed width. -/
  looksAstray : Bool := false

/-- A reader of some part of a pattern. -/
abbrev Reader (α : Type) :=
  StateT Draft (Except PatternFault) α

/-- The reading fails. -/
def refuse {α : Type} : Reader α :=
  throw .malformed

/-- The next token, which stays. -/
def peek? : Reader (Option Token) := do
  return (← get).rest.head?

/-- The tokens behind the next one; a dangling backslash is refused as soon as it is next. -/
def settle (rest : List Token) : Reader Unit := do
  if rest.head? == some .dangling then refuse
  modify fun draft => { draft with rest := rest }

/-- The next character is `c`, and is then passed. -/
def accept (c : Char) : Reader Bool := do
  match (← get).rest with
  | t :: rest => if t == .plain c then settle rest; return true else return false
  | [] => return false

/-- The next token. -/
def take : Reader Token := do
  match (← get).rest with
  | t :: rest => settle rest; return t
  | [] => refuse

/-- The next characters as far as `p` holds, at most `limit` of them. -/
def takeUpTo (limit : Nat) (p : Char → Bool) : Reader (List Char) := do
  match limit, (← get).rest with
  | limit + 1, .plain c :: rest =>
    if p c then
      settle rest
      return c :: (← takeUpTo limit p)
    else return []
  | _, _ => return []

/-- The next characters as far as `p` holds. -/
def takeWhile (p : Char → Bool) : Reader (List Char) := do
  takeUpTo (← get).rest.length p

/-- The character `c` has to follow. -/
def expect (c : Char) : Reader Unit := do
  if !(← accept c) then refuse

/-- The characters of a token. -/
def Token.chars : Token → List Char
  | plain c => [c]
  | escaped c => ['\\', c]
  | dangling => ['\\']

/-- What stands in front of `stop`, which is passed; it is not empty. -/
def takeTo (stop : Char) : Reader (List Char) := do
  let draft ← get
  let found := draft.rest.takeWhile (· != .plain stop)
  match found, draft.rest.drop found.length with
  | _ :: _, _ :: rest =>
    settle rest
    return found.flatMap Token.chars
  | _, _ => refuse

/-! ### Characters -/

/-- A digit of numbers to the base eight. -/
def isOctal (c : Char) : Bool :=
  '0' ≤ c && c ≤ '7'

/-- A digit of numbers to the base sixteen. -/
def isHex (c : Char) : Bool :=
  c.isDigit || ('a' ≤ c && c ≤ 'f') || ('A' ≤ c && c ≤ 'F')

/-- A code point in exactly `count` digits. -/
def hexCode (count : Nat) : Reader Nat := do
  let digits ← takeUpTo count isHex
  let code := natOfDigits 16 digits
  if digits.length == count && code < 0x110000 then return code else refuse

/-- The class that a letter behind a backslash names, and whether its complement is meant. -/
def classOf? : Char → Option SetItem
  | 'd' => some (.named .digit false)
  | 'D' => some (.named .digit true)
  | 's' => some (.named .blank false)
  | 'S' => some (.named .blank true)
  | 'w' => some (.named .word false)
  | 'W' => some (.named .word true)
  | _ => none

/-- The control character that a letter behind a backslash names. -/
def controlOf? : Char → Option Nat
  | 'a' => some 7
  | 'f' => some 12
  | 'n' => some 10
  | 'r' => some 13
  | 't' => some 9
  | 'v' => some 11
  | _ => none

/-- The code point whose name stands in braces; names that the tables leave out are refused. -/
def namedCode : Reader Nat := do
  expect '\x7b'
  match namedCodePoint? (.ofList (← takeTo '\x7d')) with
  | some code => return code
  | none => refuse

/-- The code point of an escape that starts with `c` and means the same inside and outside sets. -/
def plainEscape (c : Char) : Reader Nat := do
  match controlOf? c with
  | some code => return code
  | none =>
    match c with
    | 'x' => hexCode 2
    | 'u' => hexCode 4
    | 'U' => hexCode 8
    | 'N' => namedCode
    | c => if c.isAlphanum then refuse else return c.toNat

/-- A code point written with digits to the base eight, the first of which has been read. -/
def octalCode (digits : List Char) : Reader Nat := do
  let code := natOfDigits 8 digits
  if code ≤ 0o377 then return code else refuse

/-! ### Sets -/

/-- An escape inside a set. -/
def setEscape (c : Char) : Reader SetItem := do
  match classOf? c with
  | some item => return item
  | none =>
    if c = 'b' then return .code 8
    else if isOctal c then return .code (← octalCode (c :: (← takeUpTo 2 isOctal)))
    else return .code (← plainEscape c)

/-- One character or class inside a set. -/
def setAtom : Reader SetItem := do
  match ← take with
  | .plain c => return .code c.toNat
  | .escaped c => setEscape c
  | .dangling => refuse

/-- The items of a set up to its bracket, with those read before in reverse order. -/
def setItems : Nat → List SetItem → Reader (List SetItem)
  | 0, _ => refuse
  | fuel + 1, items => do
    if !items.isEmpty && (← accept ']') then return items.reverse
    let item ← setAtom
    if !(← accept '-') then setItems fuel (item :: items)
    else if ← accept ']' then return (.code '-'.toNat :: item :: items).reverse
    else
      match item, ← setAtom with
      | .code first, .code last =>
        if first ≤ last then setItems fuel (.range first last :: items) else refuse
      | _, _ => refuse

/-! ### Repetitions -/

/-- The greatest number of rounds that has to be written out is below this one. -/
def boundLimit : Nat :=
  4294967295

/-- A bound of a repetition. -/
def bound (digits : List Char) : Reader Nat := do
  if mostDigits < digits.length then throw (.tooManyDigits digits.length)
  let n := natOfDigits 10 digits
  if n < boundLimit then return n else throw .oversizedBound

/-- A repetition mark at the start of the text: its bounds.  A brace that opens none is a character
like any other. -/
def bounds? : Reader (Option (Nat × Option Nat)) := do
  if ← accept '?' then return some (0, some 1)
  if ← accept '*' then return some (0, none)
  if ← accept '+' then return some (1, none)
  let start ← get
  if !(← accept '\x7b') then return none
  if (← peek?) == some (.plain '\x7d') then set start; return none
  let low ← takeWhile Char.isDigit
  let high ← if ← accept ',' then takeWhile Char.isDigit else pure low
  if !(← accept '\x7d') then set start; return none
  let least ← bound low
  let most ← if high.isEmpty then pure none else some <$> bound high
  if most.any (· < least) then refuse else return some (least, most)

/-- How the repetition chooses the number of its rounds. -/
def appetite : Reader Appetite := do
  if ← accept '?' then return .reluctant
  if ← accept '+' then return .possessive
  return .greedy

/-! ### Parts of a sequence -/

/-- What a part of a sequence is, as far as its surroundings ask. -/
inductive PartKind where
  /-- Nothing at all. -/
  | nothing
  /-- A set of characters or a single one. -/
  | chars (set : CharSet)
  | anchor
  | repetition
  | other
  deriving DecidableEq

/-- A part of a sequence. -/
structure Part where
  pattern : Pattern
  kind : PartKind := .other

/-- A part that is a set of characters. -/
def Part.ofSet (set : CharSet) : Part :=
  ⟨.char set, .chars set⟩

/-- A part that is a condition on the place. -/
def Part.ofAnchor (a : Anchor) : Part :=
  ⟨.anchor a, .anchor⟩

/-- The part of a set of items. -/
def setPart (modes : Modes) (negated : Bool) (items : List SetItem) : Part :=
  .ofSet ⟨negated, items.eraseDups, modes.comparison⟩

/-- Parts one after another as one part, which is of the kind of the only one that is there. -/
def Part.sequence (parts : List Part) : Part :=
  match parts.filter fun part => part.kind != .nothing with
  | [] => ⟨.empty, .nothing⟩
  | [part] => part
  | parts => ⟨Pattern.sequence (parts.map Part.pattern), .other⟩

/-- A part between parentheses, which may be repeated whatever it is. -/
def Part.grouped (part : Part) : Part :=
  match part.kind with
  | .anchor | .repetition => ⟨part.pattern, .other⟩
  | _ => part

/-- The set of a part that may become part of a larger set. -/
def Part.openSet? (part : Part) : Option CharSet :=
  match part.kind with
  | .chars set => if set.negated then none else some set
  | _ => none

/-- Alternatives as one part.  Sets that are not all equal become one set. -/
def Part.choice (parts : List Part) : Part :=
  match parts, parts.mapM Part.openSet? with
  | [part], _ => part
  | _, some (set :: more) =>
    if more.all (· == set) then ⟨Pattern.choice (parts.map Part.pattern), .other⟩
    else .ofSet { set with items := ((set :: more).flatMap CharSet.items).eraseDups }
  | _, _ => ⟨Pattern.choice (parts.map Part.pattern), .other⟩

/-! ### Modes -/

/-- Letters behind a question mark. -/
def isModeLetter (c : Char) : Bool :=
  "imsxatu".toList.contains c

/-- Letters that choose the alphabet. -/
def isAlphabetLetter (c : Char) : Bool :=
  c == 'a' || c == 'u'

/-- The modes with one of them switched. -/
def Modes.switch (modes : Modes) (on : Bool) : Char → Modes
  | 'i' => { modes with comparison.ignoreCase := on }
  | 'm' => { modes with multiline := on }
  | 's' => { modes with dotAll := on }
  | 'x' => { modes with verbose := on }
  | 'a' => { modes with comparison.ascii := on }
  | 'u' => { modes with comparison.ascii := !on }
  | _ => modes

/-- The letters choose more than one alphabet. -/
def mixesAlphabets (letters : List Char) : Bool :=
  letters.contains 'a' && letters.contains 'u'

/-- The modes for the whole pattern that some letters switch on. -/
def Draft.withGlobal (draft : Draft) (letters : List Char) : Draft :=
  let modes := letters.foldl (fun modes letter => modes.switch true letter) draft.modes
  { draft with
    modes := modes
    wantsAscii := draft.wantsAscii || letters.contains 'a'
    wantsUnicode := draft.wantsUnicode || letters.contains 'u'
    isTemplate := draft.isTemplate || letters.contains 't' }

/-! ### Groups -/

/-- The name of a group. -/
def groupName (stop : Char) : Reader String := do
  let name ← takeTo stop
  if isIdentifier name then return .ofList name else refuse

/-- A group that stands behind or around a look behind cannot be seen from there. -/
def Draft.hides (draft : Draft) (number : Nat) : Bool :=
  draft.visible.any fun visible => visible ≤ number || draft.openGroups.contains number

/-- The text that a group has matched. -/
def reference (number : Nat) : Reader Part := do
  let draft ← get
  if draft.groups ≤ number || draft.openGroups.contains number || draft.hides number then refuse
  else return ⟨.same number draft.modes.comparison, .other⟩

/-- A new group, which is open. -/
def openGroup (name : Option String) : Reader Nat := do
  let draft ← get
  let number := draft.groups
  let names ← match name with
    | none => pure draft.names
    | some name =>
      if (draft.names.get? name).isSome then refuse else pure (draft.names.put name number)
  set { draft with
    groups := number + 1, openGroups := number :: draft.openGroups, names := names }
  return number

/-- The widths of the groups that are closed. -/
def Draft.groupWidths (draft : Draft) (number : Nat) : Widths :=
  ((draft.widths.find? fun w => w.1 == number).map Prod.snd).getD (0, none)

/-- The group is closed. -/
def closeGroup (number : Nat) (inner : Pattern) : Reader Unit :=
  modify fun draft => { draft with
    openGroups := draft.openGroups.filter (· != number)
    widths := (number, inner.widths draft.groupWidths) :: draft.widths }

/-- Blanks around the number of a group. -/
def isNumberSpace (c : Char) : Bool :=
  isBlank c && !(28 ≤ c.toNat && c.toNat ≤ 31)

/-- The number that digits of any script write, single underscores between them. -/
def groupedNumber? : List Char → Option Nat → Option Nat
  | [], found => found
  | '_' :: c :: rest, some n =>
    (decimalValue? c).bind fun d => groupedNumber? rest (some (10 * n + d))
  | c :: rest, found =>
    (decimalValue? c).bind fun d => groupedNumber? rest (some (10 * found.getD 0 + d))

/-- The number of a group as a condition states it. -/
def groupNumber? (cs : List Char) : Option Nat :=
  let cs := ((cs.dropWhile isNumberSpace).reverse.dropWhile isNumberSpace).reverse
  match cs with
  | '+' :: rest => groupedNumber? rest none
  | cs => groupedNumber? cs none

/-- The greatest number of groups. -/
def mostGroups : Nat :=
  1073741823

/-- The group that a condition asks for. -/
def condition : Reader Nat := do
  let name ← takeTo ')'
  let draft ← get
  if isIdentifier name then
    match draft.names.get? (.ofList name) with
    | some number => if draft.hides number then refuse else return number
    | none => refuse
  else
    match groupNumber? name with
    | some (number + 1) =>
      if mostGroups ≤ number + 1 || draft.hides number then refuse
      else
        set { draft with neededGroups := max draft.neededGroups (number + 1) }
        return number
    | _ => refuse

/-- An escape outside sets.  Two digits are a reference, but three octal ones a character. -/
def escape (c : Char) : Reader Part := do
  let modes := (← get).modes
  let code := fun n => setPart modes false [.code n]
  match classOf? c, c with
  | some item, _ => return setPart modes false [item]
  | none, 'A' => return .ofAnchor .textStart
  | none, 'Z' => return .ofAnchor .textEnd
  | none, 'b' => return .ofAnchor (.boundary modes.comparison.ascii)
  | none, 'B' => return .ofAnchor (.noBoundary modes.comparison.ascii)
  | none, '0' => return code (natOfDigits 8 (← takeUpTo 2 isOctal))
  | none, c =>
    if c.isDigit then
      let second ← takeUpTo 1 Char.isDigit
      let third ← if (c :: second).all isOctal && second.length == 1 then takeUpTo 1 isOctal
        else pure []
      if third.isEmpty then reference (natOfDigits 10 (c :: second) - 1)
      else return code (← octalCode (c :: second ++ third))
    else return code (← plainEscape c)

/-! ### The nesting -/

/-- The tokens behind a comment whose opening has been read. -/
def afterComment : List Token → Option (List Token)
  | [] => none
  | t :: rest => if t = .plain ')' then some rest else afterComment rest

/-- The tokens behind the end of the line, which may be the end of the text. -/
def afterLine : List Token → Option (List Token)
  | [] => some []
  | [.dangling] => none
  | t :: rest => if t = .plain '\n' then some rest else afterLine rest

/-- A blank that a verbose pattern may hold. -/
def isVerboseBlank (c : Char) : Bool :=
  c = ' ' || (9 ≤ c.toNat && c.toNat ≤ 13)

mutual

/-- Alternatives, up to a closing parenthesis or the end.  `isFirst` says that the pattern begins
here. -/
def alternatives (isFirst : Bool) : Nat → Reader (List Part)
  | 0 => refuse
  | fuel + 1 => do
    let first := Part.sequence (← parts isFirst fuel [])
    if ← accept '|' then return first :: (← alternatives false fuel) else return [first]

/-- The parts of a sequence, where `found` have been read, the last first. -/
def parts (isFirst : Bool) : Nat → List Part → Reader (List Part)
  | 0, _ => refuse
  | fuel + 1, found => do
    let modes := (← get).modes
    match ← peek? with
    | none | some (.plain '|') | some (.plain ')') => return found.reverse
    | some t =>
      match ← bounds? with
      | some (least, most) => repeatPart fuel isFirst least most found
      | none =>
        let _ ← take
        match t with
        | .escaped c => parts isFirst fuel ((← escape c) :: found)
        | .dangling => refuse
        | .plain c =>
          if modes.verbose && isVerboseBlank c then parts isFirst fuel found
          else if modes.verbose && c = '#' then
            match afterLine (← get).rest with
            | some rest => settle rest
            | none => refuse
            parts isFirst fuel found
          else if c = '(' then
            match ← parenthesis (isFirst && found.isEmpty) fuel with
            | some part => parts isFirst fuel (part :: found)
            | none => parts isFirst fuel found
          else parts isFirst fuel ((← simplePart c) :: found)

/-- The parts of a sequence whose last part is repeated. -/
def repeatPart : Nat → Bool → Nat → Option Nat → List Part → Reader (List Part)
  | 0, _, _, _, _ => refuse
  | fuel + 1, isFirst, least, most, found => do
    match found with
    | ⟨inner, kind⟩ :: found =>
      if kind == .anchor || kind == .repetition then refuse
      let appetite ← appetite
      modify fun draft => { draft with repeats := true }
      parts isFirst fuel (⟨.rounds least most appetite inner, .repetition⟩ :: found)
    | [] => refuse

/-- A part that starts with a character which is no parenthesis. -/
def simplePart (c : Char) : Reader Part := do
  let modes := (← get).modes
  match c with
  | '.' => return setPart modes true (if modes.dotAll then [] else [.code 10])
  | '^' => return .ofAnchor (if modes.multiline then .lineStart else .textStart)
  | '$' => return .ofAnchor (if modes.multiline then .lineEnd else .lastLineEnd)
  | '[' =>
    let negated ← accept '^'
    return setPart modes negated (← setItems ((← get).rest.length + 1) [])
  | c => return setPart modes false [.code c.toNat]

/-- What stands in parentheses, up to the closing one, under the given modes. -/
def enclosed : Nat → Modes → Reader Part
  | 0, _ => refuse
  | fuel + 1, modes => do
    let outer := (← get).modes
    modify fun draft => { draft with modes := modes }
    let inner := Part.choice (← alternatives false fuel)
    modify fun draft => { draft with modes := outer }
    expect ')'
    return inner

/-- A group that keeps what it matches, perhaps under a name. -/
def captured : Nat → Option String → Reader Part
  | 0, _ => refuse
  | fuel + 1, name => do
    let number ← openGroup name
    let inner ← enclosed fuel (← get).modes
    closeGroup number inner.pattern
    return ⟨.group number inner.pattern, .other⟩

/-- A look at what is in front of a place. -/
def lookBehind : Nat → Bool → Reader Part
  | 0, _ => refuse
  | fuel + 1, wanted => do
    let outer := (← get).visible
    modify fun draft => { draft with visible := outer <|> some draft.groups }
    let inner ← enclosed fuel (← get).modes
    modify fun draft => { draft with visible := outer }
    let (low, high) := inner.pattern.widths (← get).groupWidths
    if high != some low || boundLimit < low then
      modify fun draft => { draft with looksAstray := true }
    return ⟨.behind wanted low inner.pattern, .other⟩

/-- What an opening parenthesis begins; a comment and modes for the whole pattern are no part. -/
def parenthesis (mayLead : Bool) : Nat → Reader (Option Part)
  | 0 => refuse
  | fuel + 1 => do
    if !(← accept '?') then return some (← captured fuel none)
    let modes := (← get).modes
    match ← take with
    | .plain ':' => return some (← enclosed fuel modes).grouped
    | .plain '#' =>
      match afterComment (← get).rest with
      | some rest => settle rest; return none
      | none => refuse
    | .plain '=' => return some ⟨.ahead true (← enclosed fuel modes).pattern, .other⟩
    | .plain '!' => return some ⟨.ahead false (← enclosed fuel modes).pattern, .other⟩
    | .plain '>' => return some ⟨.atomic (← enclosed fuel modes).pattern, .other⟩
    | .plain '<' =>
      if ← accept '=' then return some (← lookBehind fuel true)
      else if ← accept '!' then return some (← lookBehind fuel false)
      else refuse
    | .plain 'P' =>
      if ← accept '<' then return some (← captured fuel (some (← groupName '>')))
      else if ← accept '=' then
        match (← get).names.get? (← groupName ')') with
        | some number => return some (← reference number)
        | none => refuse
      else refuse
    | .plain '(' =>
      let number ← condition
      let yes := Part.sequence (← parts false fuel [])
      let no ← if ← accept '|' then parts false fuel [] else pure []
      expect ')'
      return some ⟨.ifMatched number yes.pattern (Part.sequence no).pattern, .other⟩
    | .plain c => switched mayLead c fuel
    | _ => refuse

/-- Modes that a parenthesis switches, the first letter of which is `c`. -/
def switched (mayLead : Bool) (c : Char) : Nat → Reader (Option Part)
  | 0 => refuse
  | fuel + 1 => do
    let modes := (← get).modes
    if c != '-' && !isModeLetter c then refuse
    let on ← if c = '-' then pure [] else (c :: ·) <$> takeWhile isModeLetter
    if mixesAlphabets on then refuse
    if c != '-' && (← accept ')') then
      if !mayLead then refuse
      modify fun draft => draft.withGlobal on
      return none
    let hasOff ← if c = '-' then pure true else accept '-'
    let off ← if hasOff then takeWhile isModeLetter else pure []
    expect ':'
    if on.contains 't' || off.contains 't' || off.any isAlphabetLetter || on.any off.contains ||
        (hasOff && off.isEmpty) then refuse
    let modes := on.foldl (fun modes letter => modes.switch true letter) modes
    let modes := off.foldl (fun modes letter => modes.switch false letter) modes
    let inner ← enclosed fuel modes
    return some ⟨inner.pattern, .other⟩

end

/-- The pattern that a text writes. -/
def ofText (s : String) : Except PatternFault Pattern := do
  let read : Reader Part := do
    settle (tokens s.toList)
    return Part.choice (← alternatives true (8 * s.length + 16))
  let (part, draft) ← read.run { rest := [] }
  if draft.wantsAscii && draft.wantsUnicode then throw .mixedAlphabets
  if !draft.rest.isEmpty || draft.groups < draft.neededGroups || draft.looksAstray ||
      (draft.isTemplate && draft.repeats) then throw .malformed
  return part.pattern

end Pattern

end SchemaAtlas

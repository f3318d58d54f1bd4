import SchemaAtlas.Data.Basic
import SchemaAtlas.Text.Digit
import SchemaAtlas.Text.Integer
import SchemaAtlas.Text.Search

/-!
# Reading JSON

`Data.ofJson` reads a JSON text whose lists and records are nested up to a given depth; the first
that is deeper ends the reading, whatever comes behind it.  Numbers with a fraction or an exponent
are `real`, others `int`, unless they have more digits than are converted; then there is no reading.
Of several members with one name the last counts.  The names `NaN`, `Infinity` and `-Infinity` are
accepted as numbers, and half of a pair of units is read as the character for what is unknown.
-/

namespace SchemaAtlas

/-- Why a JSON text has no reading. -/
inductive JsonFault where
  | malformed
  /-- A list or a record is nested too deep to be followed. -/
  | tooDeep
  deriving DecidableEq

end SchemaAtlas

namespace SchemaAtlas.Json

open Text

/-- What has been read, or else the text is malformed. -/
def orMalformed {α : Type} (found : Option α) : Except JsonFault α :=
  found.elim (.error .malformed) .ok

/-- Blanks between tokens. -/
def isGap (c : Char) : Bool :=
  c == ' ' || c == '\t' || c == '\n' || c == '\r'

/-- The text without the gap it starts with. -/
def skipGap (cs : List Char) : List Char :=
  cs.dropWhile isGap

/-- The value of a hexadecimal digit. -/
def hexValue? (c : Char) : Option Nat :=
  if '0' ≤ c && c ≤ '9' then some (c.toNat - 48)
  else if 'a' ≤ c && c ≤ 'f' then some (c.toNat - 87)
  else if 'A' ≤ c && c ≤ 'F' then some (c.toNat - 55)
  else none

/-- The number that four hexadecimal digits at the start of the text form, and the rest. -/
def codeUnit? : List Char → Option (Nat × List Char)
  | a :: b :: c :: d :: rest =>
    match hexValue? a, hexValue? b, hexValue? c, hexValue? d with
    | some a, some b, some c, some d => some (((a * 16 + b) * 16 + c) * 16 + d, rest)
    | _, _, _, _ => none
  | _ => none

/-- The character behind a `\u`, joined from two units where they form a pair, and the rest. -/
def unicodeEscape? (cs : List Char) : Option (Char × List Char) :=
  match codeUnit? cs with
  | none => none
  | some (unit, rest) =>
    if 0xD800 ≤ unit && unit < 0xDC00 then
      match rest with
      | '\\' :: 'u' :: more =>
        match codeUnit? more with
        | some (low, rest') =>
          if 0xDC00 ≤ low && low < 0xE000 then
            some (.ofNat (0x10000 + (unit - 0xD800) * 0x400 + (low - 0xDC00)), rest')
          else some (.ofNat 0xFFFD, rest)
        | none => some (.ofNat 0xFFFD, rest)
      | _ => some (.ofNat 0xFFFD, rest)
    else if 0xDC00 ≤ unit && unit < 0xE000 then some (.ofNat 0xFFFD, rest)
    else some (.ofNat unit, rest)

/-- The character that a one-letter escape stands for. -/
def shortEscape? : Char → Option Char
  | '"' => some '"'
  | '\\' => some '\\'
  | '/' => some '/'
  | 'b' => some '\x08'
  | 'f' => some '\x0c'
  | 'n' => some '\n'
  | 'r' => some '\r'
  | 't' => some '\t'
  | _ => none

/-- The characters up to the closing quote, and the rest.  Every step takes at least one character,
so `fuel` may be the length of the text. -/
def string? : (fuel : Nat) → List Char → Option (List Char × List Char)
  | 0, _ => none
  | _, [] => none
  | fuel + 1, c :: rest =>
    if c = '"' then some ([], rest)
    else if c.toNat < 32 then none
    else if c = '\\' then
      match rest with
      | [] => none
      | 'u' :: more =>
        match unicodeEscape? more with
        | some (d, rest') => (string? fuel rest').map fun r => (d :: r.1, r.2)
        | none => none
      | e :: more =>
        match shortEscape? e with
        | some d => (string? fuel more).map fun r => (d :: r.1, r.2)
        | none => none
    else (string? fuel rest).map fun r => (c :: r.1, r.2)

/-- The digits behind a decimal point, if a point and a digit follow, and the rest. -/
def fraction (cs : List Char) : List Char × List Char :=
  match cs with
  | '.' :: rest =>
    match rest.span Char.isDigit with
    | ([], _) => ([], cs)
    | (digits, rest) => (digits, rest)
  | _ => ([], cs)

/-- The exponent, if a whole one follows, and the rest. -/
def exponent? (cs : List Char) : Option (Int × List Char) :=
  match cs with
  | [] => none
  | e :: rest =>
    if e = 'e' || e = 'E' then
      let (negative, rest) := match rest with
        | '-' :: rest => (true, rest)
        | '+' :: rest => (false, rest)
        | rest => (false, rest)
      match rest.span Char.isDigit with
      | ([], _) => none
      | (digits, rest) =>
        let n : Int := natOfDigits 10 digits
        some (if negative then -n else n, rest)
    else none

/-- The number at the start of the text, whose sign has been read, and the rest. -/
def number? (negative : Bool) (cs : List Char) : Option (Data × List Char) :=
  match cs.span Char.isDigit with
  | ([], _) => none
  | (whole, rest) =>
    let (whole, rest) :=
      if whole.head? == some '0' then (['0'], whole.tail ++ rest) else (whole, rest)
    let (digits, behind) := fraction rest
    let exponent := exponent? behind
    if digits.isEmpty && exponent.isNone then
      let n : Int := natOfDigits 10 whole
      if mostDigits < whole.length then none
      else some (.int (if negative then -n else n), rest)
    else
      let (power, behind) := exponent.getD (0, behind)
      some (.real (.ofDecimal negative (natOfDigits 10 (whole ++ digits)) (power - digits.length)),
        behind)

/-- The names of values. -/
def named? (cs : List Char) : Option (Data × List Char) :=
  let names : List (String × Data) :=
    [("null", .null), ("true", .bool true), ("false", .bool false),
      ("NaN", .real (.ofFloat (0 / 0))), ("Infinity", .real (.ofFloat (1 / 0))),
      ("-Infinity", .real (.ofFloat (-1 / 0)))]
  names.findSome? fun (name, value) => (after? name cs).map fun rest => (value, rest)

mutual

/-- The value at the start of the text, and the rest.  Every call takes `fuel`, and every list or
record takes `depth`, before what is in it is looked at. -/
def value : (fuel depth : Nat) → List Char → Except JsonFault (Data × List Char)
  | 0, _, _ => .error .malformed
  | fuel + 1, depth, cs =>
    match skipGap cs with
    | '"' :: rest =>
      orMalformed ((string? (rest.length + 1) rest).map fun r => (.text (.ofList r.1), r.2))
    | '[' :: rest =>
      match depth with
      | 0 => .error .tooDeep
      | depth + 1 =>
        match skipGap rest with
        | ']' :: rest => .ok (.list [], rest)
        | rest => (items fuel depth rest).map fun r => (.list r.1, r.2)
    | '\x7b' :: rest =>
      match depth with
      | 0 => .error .tooDeep
      | depth + 1 =>
        match skipGap rest with
        | '\x7d' :: rest => .ok (.record [], rest)
        | rest => (members fuel depth rest).map fun r => (.record (Keyed.ofList r.1), r.2)
    | cs =>
      match named? cs with
      | some found => .ok found
      | none =>
        match cs with
        | '-' :: rest => orMalformed (number? true rest)
        | _ => orMalformed (number? false cs)

/-- The items up to the closing bracket, and the rest. -/
def items : (fuel depth : Nat) → List Char → Except JsonFault (List Data × List Char)
  | 0, _, _ => .error .malformed
  | fuel + 1, depth, cs => do
    let (item, rest) ← value fuel depth cs
    match skipGap rest with
    | ']' :: rest => return ([item], rest)
    | ',' :: rest =>
      let (more, rest) ← items fuel depth rest
      return (item :: more, rest)
    | _ => throw .malformed

/-- The members up to the closing brace, and the rest. -/
def members : (fuel depth : Nat) → List Char → Except JsonFault (List (String × Data) × List Char)
  | 0, _, _ => .error .malformed
  | fuel + 1, depth, cs => do
    match skipGap cs with
    | '"' :: rest =>
      let (name, rest) ← orMalformed (string? (rest.length + 1) rest)
      match skipGap rest with
      | ':' :: rest =>
        let (value, rest) ← value fuel depth rest
        let member := (String.ofList name, value)
        match skipGap rest with
        | '\x7d' :: rest => return ([member], rest)
        | ',' :: rest =>
          let (more, rest) ← members fuel depth rest
          return (member :: more, rest)
        | _ => throw .malformed
      | _ => throw .malformed
    | _ => throw .malformed

end

end SchemaAtlas.Json

namespace SchemaAtlas

/-- The value that a JSON text writes, where lists and records may be nested up to `depth` deep. -/
def Data.ofJson (depth : Nat) (s : String) : Except JsonFault Data :=
  match Json.value (2 * s.length + 2) depth s.toList with
  | .error fault => .error fault
  | .ok (value, rest) => if (Json.skipGap rest).isEmpty then .ok value else .error .malformed

end SchemaAtlas

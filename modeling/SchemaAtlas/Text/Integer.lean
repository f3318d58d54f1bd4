import SchemaAtlas.Text.Blank
import SchemaAtlas.Text.Digit
import SchemaAtlas.Text.Search

/-!
# Integers written by hand

`integerOf` reads the integer that a text writes, with blanks around it or not.  The strict form,
`numeral`, is a minus sign or none and then a zero, or digits that do not start with one.  A text
that is not in that form is read once more in its simplified form (`simplified?`), where a plus sign,
leading zeros, zeros behind a point and underscores between digits are gone.  A zero in front of a
sign counts as a leading zero too.
-/

namespace SchemaAtlas.Text

/-- Why a text writes no integer. -/
inductive IntegerFault where
  | unreadable
  /-- It has more digits than are converted. -/
  | oversized
  deriving DecidableEq

/-- The greatest number of digits, with the sign, of an integer that is converted. -/
def mostDigits : Nat :=
  4300

/-- The integer in its strict form. -/
def numeral (cs : List Char) : Except IntegerFault Int :=
  let (negative, unsigned) := match cs with
    | '-' :: rest => (true, rest)
    | cs => (false, cs)
  match unsigned with
  | ['0'] => .ok 0
  | [] | '0' :: _ => .error .unreadable
  | _ =>
    let (digits, rest) := unsigned.span Char.isDigit
    let length := digits.length + cs.length - unsigned.length
    if digits.isEmpty then .error .unreadable
    else if mostDigits < length then .error .oversized
    else if !rest.isEmpty then .error .unreadable
    else
      let n : Int := natOfDigits 10 digits
      .ok (if negative then -n else n)

/-- The text without a plus sign that it starts with, which no minus sign may follow. -/
def withoutPlus? : List Char → Option (List Char)
  | '+' :: '-' :: _ => none
  | '+' :: rest => some rest
  | cs => some cs

/-- The text from the first character on that is neither a zero nor an underscore, where `last` is
the character in front of it; a point takes that character with it, and at the end of the text it
stands alone. -/
def behindZeros? (last : Char) : List Char → Option (List Char)
  | [] => some [last]
  | c :: rest =>
    if c = '0' || c = '_' then behindZeros? c rest
    else if c = '.' then some (last :: c :: rest)
    else if c.isDigit || c = '-' then some (c :: rest)
    else none

/-- The text without the zeros it starts with. -/
def withoutLeadingZeros? : List Char → Option (List Char)
  | [] => none
  | c :: rest =>
    if c = '0' then behindZeros? c rest
    else if c.isDigit || c = '-' then some (c :: rest)
    else none

/-- The text without a point and the zeros behind it, of which there is at least one. -/
def withoutZeroFraction (cs : List Char) : List Char :=
  match cutFirst? '.' cs with
  | some (whole, '0' :: zeros) => if zeros.all (· == '0') then whole else cs
  | _ => cs

/-- Two underscores stand side by side. -/
def hasDoubleUnderscore (cs : List Char) : Bool :=
  (afterFirst? "__" cs).isSome

/-- The text without underscores, if each of them separates two other characters. -/
def withoutSeparators (cs : List Char) : List Char :=
  if cs.head? == some '_' || cs.getLast? == some '_' || hasDoubleUnderscore cs then cs
  else cs.filter (· != '_')

/-- The text without the decoration that an integer may have. -/
def simplified? (cs : List Char) : Option (List Char) := do
  let cs ← withoutLeadingZeros? (← withoutPlus? cs)
  return withoutSeparators (withoutZeroFraction cs)

/-- Blanks around a number, which the separators of records and fields are not. -/
def isNumberBlank (c : Char) : Bool :=
  isBlank c && !(0x1C ≤ c.toNat && c.toNat ≤ 0x1F)

/-- The integer that a text writes. -/
def integerOf (s : String) : Except IntegerFault Int :=
  let cs := ((s.toList.dropWhile isNumberBlank).reverse.dropWhile isNumberBlank).reverse
  match numeral cs with
  | .error .unreadable =>
    match simplified? cs with
    | some cs => numeral cs
    | none => .error .unreadable
  | found => found

end SchemaAtlas.Text

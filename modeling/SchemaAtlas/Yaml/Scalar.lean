import SchemaAtlas.Data.Scalar
import SchemaAtlas.Text.Digit
import SchemaAtlas.Text.Integer
import SchemaAtlas.Text.Search
import SchemaAtlas.Text.Separated

/-!
# Plain scalars

What a scalar without quotes stands for is decided by its form: truth values, integers to four bases
and in sixties, numbers with a point, dates, moments, and nothing at all; every other scalar is a
text.  A scalar may have the form of a value that does not exist, such as the thirteenth month; the
`ScalarFault` says why.
-/

namespace SchemaAtlas.Yaml

open Text

/-- Why there is no value of the form that a plain scalar has. -/
inductive ScalarFault where
  /-- A number to the given base, none of whose digits is written. -/
  | noDigits (base : Nat)
  /-- A number with more digits than are converted. -/
  | tooManyDigits (count : Nat)
  | calendar (fault : CalendarFault)
  deriving DecidableEq

/-- The wording of a fault. -/
def ScalarFault.message : ScalarFault → String
  | noDigits base => "invalid literal for int() with base " ++ toString base ++ ": ''"
  | tooManyDigits count =>
    "Exceeds the limit (" ++ toString mostDigits ++
      " digits) for integer string conversion: value has " ++ toString count ++
      " digits; use sys.set_int_max_str_digits() to increase the limit"
  | calendar fault => fault.message

/-- What a plain scalar stands for. -/
inductive Plain where
  | value (s : Scalar)
  /-- As a key in a mapping: the entries of the value belong to the mapping. -/
  | merge
  /-- The mark of a default value, which is only a key. -/
  | standard
  | improper (fault : ScalarFault)
  deriving DecidableEq

/-- The value of a scalar of some form. -/
def Plain.ofResult : Except ScalarFault Scalar → Plain
  | .ok s => .value s
  | .error fault => .improper fault

/-- A truth value. -/
def truthOf? (s : String) : Option Bool :=
  if ["yes", "Yes", "YES", "true", "True", "TRUE", "on", "On", "ON"].contains s then some true
  else if ["no", "No", "NO", "false", "False", "FALSE", "off", "Off", "OFF"].contains s then
    some false
  else none

/-- The sign a number starts with, if it has one, and the rest. -/
def splitSign : List Char → Bool × List Char
  | '-' :: rest => (true, rest)
  | '+' :: rest => (false, rest)
  | cs => (false, cs)

/-- A number with the given sign. -/
def withSign (negative : Bool) (n : Nat) : Int :=
  if negative then -(n : Int) else n

/-- Digits, among which underscores count for nothing. -/
def ungrouped (cs : List Char) : List Char :=
  cs.filter (· != '_')

/-- The number that digits write to a base. -/
def natOf (base : Nat) (cs : List Char) : Nat :=
  natOfDigits base (ungrouped cs)

/-- The number that decimal digits write. -/
def decimalNat (cs : List Char) : Except ScalarFault Nat :=
  let count := (ungrouped cs).length
  if mostDigits < count then .error (.tooManyDigits count) else .ok (natOf 10 cs)

/-- Digits of which the first is no underscore. -/
def isNumeral (cs : List Char) : Bool :=
  match cs with
  | c :: rest => c.isDigit && rest.all fun d => d.isDigit || d == '_'
  | [] => false

/-- One or two digits of a number below sixty. -/
def isSixtieth : List Char → Bool
  | [a] => a.isDigit
  | [a, b] => '0' ≤ a && a ≤ '5' && b.isDigit
  | _ => false

/-- The digit can be part of an integer to the given base. -/
def isDigitOf (base : Nat) (c : Char) : Bool :=
  (c.isDigit || ('a' ≤ c && c ≤ 'f') || ('A' ≤ c && c ≤ 'F')) && digitValue c < base

/-- Digits to a base, perhaps with underscores. -/
def isNumeralOf (base : Nat) (cs : List Char) : Bool :=
  !cs.isEmpty && cs.all fun c => isDigitOf base c || c == '_'

/-- The number that digits write to a base that is a power of two. -/
def binaryNat (base : Nat) (cs : List Char) : Except ScalarFault Nat :=
  if (ungrouped cs).isEmpty then .error (.noDigits base) else .ok (natOf base cs)

/-- An integer without its sign. -/
def natText? (cs : List Char) : Option (Except ScalarFault Nat) :=
  match cs with
  | '0' :: 'b' :: rest => if isNumeralOf 2 rest then some (binaryNat 2 rest) else none
  | '0' :: 'x' :: rest => if isNumeralOf 16 rest then some (binaryNat 16 rest) else none
  | '0' :: rest =>
    if rest.all fun c => isDigitOf 8 c || c == '_' then some (.ok (natOf 8 rest)) else none
  | _ =>
    match cutAt ':' cs with
    | first :: more =>
      if isNumeral first && more.all isSixtieth then
        some do
          let first ← decimalNat first
          return more.foldl (fun n part => 60 * n + natOf 10 part) first
      else none
    | [] => none

/-- An integer. -/
def intText? (cs : List Char) : Option (Except ScalarFault Int) :=
  let (negative, rest) := splitSign cs
  (natText? rest).map fun n => n.map (withSign negative)

/-- An exponent with its letter and its sign, or nothing. -/
def exponentOf? : List Char → Option Int
  | [] => some 0
  | e :: sign :: digits =>
    if (e == 'e' || e == 'E') && (sign == '-' || sign == '+') && !digits.isEmpty &&
        digits.all Char.isDigit then
      some (withSign (sign == '-') (natOf 10 digits))
    else none
  | _ => none

/-- The number with the given digits in front of the point and behind it. -/
def decimal (negative : Bool) (whole fraction : List Char) (exponent : Int) : Binary64 :=
  let fraction := ungrouped fraction
  .ofDecimal negative (natOf 10 (whole ++ fraction)) (exponent - fraction.length)

/-- A number in sixties with a fraction. -/
def sixtieths (negative : Bool) (parts : List (List Char)) (fraction : List Char) : Binary64 :=
  let last := match parts.getLast? with
    | some part => (decimal false part fraction 0).toFloat
    | none => 0
  let (total, _) := parts.dropLast.reverse.foldl
    (fun (sum : Float × Float) part =>
      (sum.1 + (decimal false part [] 0).toFloat * sum.2, sum.2 * 60)) (last, 60)
  .ofFloat (if negative then -total else total)

/-- A number with a point. -/
def realText? (cs : List Char) : Option Binary64 :=
  let (negative, rest) := splitSign cs
  let isSigned := rest.length < cs.length
  let word := String.ofList rest
  if [".inf", ".Inf", ".INF"].contains word then
    some (.ofFloat (if negative then -(1 / 0) else 1 / 0))
  else if [".nan", ".NaN", ".NAN"].contains word && !isSigned then some (.ofFloat (0 / 0))
  else match cutFirst? '.' rest with
    | none => none
    | some (whole, back) =>
      let (fraction, exponent) := back.span fun c => c.isDigit || c == '_'
      match cutAt ':' whole, exponentOf? exponent with
      | [[]], some exponent =>
        if isNumeral fraction && !isSigned then some (decimal false [] fraction exponent) else none
      | [_], some exponent =>
        if isNumeral whole then some (decimal negative whole fraction exponent) else none
      | first :: more, some _ =>
        if isNumeral first && more.all isSixtieth && exponent.isEmpty then
          some (sixtieths negative (first :: more) fraction)
        else none
      | _, _ => none

/-! ### Dates and moments -/

/-- The digits in front of the rest, if there are at least `least` and at most `most` of them. -/
def digits? (least most : Nat) (cs : List Char) : Option (Nat × List Char) :=
  let digits := (cs.take most).takeWhile Char.isDigit
  if least ≤ digits.length then some (natOfDigits 10 digits, cs.drop digits.length) else none

/-- The numbers behind a colon in the form of minutes or seconds. -/
def sixtieth? : List Char → Option (Nat × List Char)
  | ':' :: rest => digits? 2 2 rest
  | _ => none

/-- The microseconds behind a point, and the rest; digits beyond the sixth are dropped. -/
def microseconds : List Char → Nat × List Char
  | '.' :: rest =>
    let (digits, rest) := rest.span Char.isDigit
    let counted := digits.take 6
    (natOfDigits 10 (counted ++ List.replicate (6 - counted.length) '0'), rest)
  | cs => (0, cs)

/-- The distance from Greenwich, in minutes, that the whole text states. -/
def offset? (cs : List Char) : Option (Option Int) :=
  match cs, cs.dropWhile fun c => c == ' ' || c == '\t' with
  | [], _ => some none
  | _, ['Z'] => some (some 0)
  | _, sign :: rest =>
    if sign == '+' || sign == '-' then
      match digits? 1 2 rest with
      | some (hours, []) => some (some (withSign (sign == '-') (60 * hours)))
      | some (hours, rest) =>
        match sixtieth? rest with
        | some (minutes, []) => some (some (withSign (sign == '-') (60 * hours + minutes)))
        | _ => none
      | none => none
    else none
  | _, [] => none

/-- The text behind what separates a day from a time. -/
def behindDay? : List Char → Option (List Char)
  | c :: rest =>
    if c == 'T' || c == 't' then some rest
    else if c == ' ' || c == '\t' then some (rest.dropWhile fun d => d == ' ' || d == '\t')
    else none
  | [] => none

/-- A time of day and the distance from Greenwich, up to the end. -/
def time? (cs : List Char) : Option (TimeOfDay × Option Int) := do
  let (hour, rest) ← digits? 1 2 cs
  let (minute, rest) ← sixtieth? rest
  let (second, rest) ← sixtieth? rest
  let (microsecond, rest) := microseconds rest
  return (⟨hour, minute, second, microsecond⟩, ← offset? rest)

/-- A number behind a minus sign, and the rest. -/
def dashed? (least : Nat) : List Char → Option (Nat × List Char)
  | '-' :: rest => digits? least 2 rest
  | _ => none

/-- A day. -/
def dateText? (cs : List Char) : Option (Except ScalarFault Scalar) := do
  let (year, rest) ← digits? 4 4 cs
  let (month, rest) ← dashed? 2 rest
  let (day, rest) ← dashed? 2 rest
  if rest.isEmpty then
    return (Date.ofNumbers year month day).mapError ScalarFault.calendar |>.map Scalar.date
  else none

/-- A day and a time. -/
def momentText? (cs : List Char) : Option (Except ScalarFault Scalar) := do
  let (year, rest) ← digits? 4 4 cs
  let (month, rest) ← dashed? 1 rest
  let (day, rest) ← dashed? 1 rest
  let (time, offset) ← time? (← behindDay? rest)
  return (Moment.ofNumbers year month day time offset).mapError ScalarFault.calendar
    |>.map Scalar.moment

/-- What a plain scalar stands for. -/
def Plain.ofText (s : String) : Plain :=
  let cs := s.toList
  if ["", "~", "null", "Null", "NULL"].contains s then .value .null
  else if s == "<<" then .merge
  else if s == "=" then .standard
  else
    let forms := [(truthOf? s).map (.ok ∘ Scalar.bool), (intText? cs).map fun n => n.map Scalar.int,
      (realText? cs).map (.ok ∘ Scalar.real), dateText? cs, momentText? cs]
    match forms.findSome? id with
    | some found => .ofResult found
    | none => .value (.text s)

end SchemaAtlas.Yaml

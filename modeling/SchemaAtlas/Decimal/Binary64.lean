/-!
# Double-precision numbers as decimals

A `Binary64` is a double-precision number given by its bits.  `shortest` finds the fewest decimal
digits that read back as the number, and of these the ones nearest to it; `text` writes them, in
positional notation while the point stays within sixteen digits.  `fixedOne` rounds to one decimal
place, a half to the even neighbour, judged on the exact binary value.  All arithmetic is on exact
naturals.
-/

namespace SchemaAtlas

/-- A double-precision number, as its bits. -/
structure Binary64 where
  bits : UInt64
  deriving DecidableEq, Inhabited

namespace Binary64

/-- The number as a machine float. -/
def toFloat (x : Binary64) : Float :=
  .ofBits x.bits

/-- A machine float as its bits. -/
def ofFloat (x : Float) : Binary64 :=
  ⟨x.toBits⟩

/-- The sign bit is set. -/
def isNegative (x : Binary64) : Bool :=
  x.bits >>> 63 == 1

/-- The eleven bits of the exponent. -/
def exponentBits (x : Binary64) : Nat :=
  ((x.bits >>> 52) &&& 0x7FF).toNat

/-- The fifty-two bits of the fraction. -/
def fractionBits (x : Binary64) : Nat :=
  (x.bits &&& 0xFFFFFFFFFFFFF).toNat

/-- Neither an infinity nor not a number. -/
def isFinite (x : Binary64) : Bool :=
  x.exponentBits != 0x7FF

/-- Not a number. -/
def isNaN (x : Binary64) : Bool :=
  x.exponentBits == 0x7FF && x.fractionBits != 0

/-- The significand of the magnitude. -/
def significand (x : Binary64) : Nat :=
  if x.exponentBits == 0 then x.fractionBits else x.fractionBits + .pow 2 52

/-- The power of two that scales the significand. -/
def scale (x : Binary64) : Int :=
  (if x.exponentBits == 0 then 1 else (x.exponentBits : Int)) - 1075

/-- The magnitude of a finite number as a fraction. -/
def magnitude (x : Binary64) : Nat × Nat :=
  if x.scale < 0 then (x.significand, .pow 2 (-x.scale).toNat)
  else (x.significand * .pow 2 x.scale.toNat, 1)

/-- The number nearest to `digits · 10 ^ exponent`, with the given sign.  Exponents far outside the
range of the format are answered without computing the power. -/
def ofDecimal (negative : Bool) (digits : Nat) (exponent : Int) : Binary64 :=
  let size := exponent + (toString digits).length
  let magnitude : Float :=
    if digits == 0 || size < -400 then 0
    else if size > 400 then 1 / 0
    else .ofScientific digits (exponent < 0) exponent.natAbs
  ofFloat (if negative then -magnitude else magnitude)

/-- The integer that a finite number is, if it is one. -/
def toInt? (x : Binary64) : Option Int :=
  let (num, den) := x.magnitude
  if x.isFinite && num % den == 0 then
    some (if x.isNegative then -((num / den : Nat) : Int) else (num / den : Nat))
  else none

/-- The product of a fraction with a power of ten, as a fraction. -/
def timesPowerOfTen (num den : Nat) (k : Int) : Nat × Nat :=
  if k < 0 then (num, den * .pow 10 (-k).toNat) else (num * .pow 10 k.toNat, den)

/-- The least `k` from the given one on with `num / den < 10 ^ k`, within `tries` steps. -/
def decimalExponent (num den : Nat) (k : Int) : Nat → Int
  | 0 => k
  | tries + 1 =>
    let (n, d) := timesPowerOfTen num den (-k)
    if n < d then k else decimalExponent num den (k + 1) tries

/-- The digits and the exponent of the decimal with `count` digits that lies in the interval of
numbers rounding to `x`, if there is one, where the magnitude of `x` is below `10 ^ point`.  Of two
the nearer is taken, and the even one of a tie. -/
def withDigits? (x : Binary64) (point : Int) (count : Nat) : Option (Nat × Int) :=
  let exponent := point - count
  let m := x.significand
  let q := x.scale - 2
  let (num, den) := if q < 0 then (1, Nat.pow 2 (-q).toNat) else (Nat.pow 2 q.toNat, 1)
  let (unit, grid) := timesPowerOfTen num den (-exponent)
  let value := 4 * m * unit
  let low := (if m == .pow 2 52 && x.exponentBits > 1 then 4 * m - 1 else 4 * m - 2) * unit
  let high := (4 * m + 2) * unit
  let inside := fun c : Nat =>
    if m % 2 == 0 then low ≤ c * grid && c * grid ≤ high else low < c * grid && c * grid < high
  let below := value / grid
  let above := below + 1
  let takeAbove := (some (above, exponent) : Option (Nat × Int))
  if inside below && below != 0 then
    let distBelow := value - below * grid
    let distAbove := above * grid - value
    if inside above && (distAbove < distBelow || (distAbove == distBelow && below % 2 == 1)) then
      takeAbove
    else some (below, exponent)
  else if inside above then takeAbove
  else none

/-- The fewest digits that read back as the magnitude of a finite number other than zero, and their
exponent. -/
def shortest (x : Binary64) : Nat × Int :=
  let (num, den) := x.magnitude
  let point := decimalExponent num den (-330) 700
  match (List.range 17).findSome? fun n => x.withDigits? point (n + 1) with
  | some found => found
  | none => (0, 0)

/-- The digits without the zeros at their end, with the exponent adjusted, for at most `tries`
zeros. -/
def withoutTrailingZeros (digits : Nat) (exponent : Int) : Nat → Nat × Int
  | 0 => (digits, exponent)
  | tries + 1 =>
    if digits != 0 && digits % 10 == 0 then withoutTrailingZeros (digits / 10) (exponent + 1) tries
    else (digits, exponent)

/-- `n` zeros. -/
def zeros (n : Nat) : String :=
  .ofList (List.replicate n '0')

/-- Digits with the decimal point behind the first `point` of them: positional up to sixteen places
in front of the point or four behind it, else with an exponent of at least two digits. -/
def layout (digits : String) (point : Int) : String :=
  let count : Int := digits.length
  if point < -3 || point > 16 then
    let exponent := point - 1
    let head := String.ofList (digits.toList.take 1)
    let tail := String.ofList (digits.toList.drop 1)
    let size := toString exponent.natAbs
    head ++ (if tail.isEmpty then "" else "." ++ tail) ++ (if exponent < 0 then "e-" else "e+") ++
      (if size.length < 2 then "0" ++ size else size)
  else if point ≤ 0 then "0." ++ zeros (-point).toNat ++ digits
  else if count ≤ point then digits ++ zeros (point - count).toNat ++ ".0"
  else
    .ofList (digits.toList.take point.toNat) ++ "." ++ .ofList (digits.toList.drop point.toNat)

/-- The shortest text that reads back as the number. -/
def text (x : Binary64) : String :=
  let sign := if x.isNegative then "-" else ""
  if x.isNaN then "nan"
  else if !x.isFinite then sign ++ "inf"
  else if x.significand == 0 then sign ++ "0.0"
  else
    let (digits, exponent) := x.shortest
    let (digits, exponent) := withoutTrailingZeros digits exponent 20
    let written := toString digits
    sign ++ layout written (exponent + written.length)

/-- The quotient rounded to the nearest integer, a half to the even one. -/
def roundDiv (num den : Nat) : Nat :=
  let quotient := num / den
  let twice := 2 * (num % den)
  if twice < den then quotient
  else if den < twice then quotient + 1
  else quotient + quotient % 2

/-- The number with one decimal place. -/
def fixedOne (x : Binary64) : String :=
  let sign := if x.isNegative then "-" else ""
  if x.isNaN then "nan"
  else if !x.isFinite then sign ++ "inf"
  else
    let (num, den) := x.magnitude
    let tenths := roundDiv (10 * num) den
    sign ++ toString (tenths / 10) ++ "." ++ toString (tenths % 10)

/-- The difference, rounded as the format prescribes. -/
def sub (x y : Binary64) : Binary64 :=
  ofFloat (x.toFloat - y.toFloat)

end Binary64

end SchemaAtlas

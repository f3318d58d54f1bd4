/-!
# UTF-8

`decodeUtf8` reads octets as characters and tells, where they are none, which octets are wrong and
why: an octet that starts no character, one that does not continue the character in front of it, or
the end of the text inside a character.
-/

namespace SchemaAtlas.Text

/-- Why octets are no text. -/
inductive Utf8Problem where
  | badStart
  | badContinuation
  | cutShort
  deriving DecidableEq

/-- Octets that are no text: `count` of them from `position` on, of which `octet` is the first. -/
structure Utf8Fault where
  problem : Utf8Problem
  position : Nat
  count : Nat
  octet : UInt8
  deriving DecidableEq

/-- The words for a problem. -/
def Utf8Problem.reason : Utf8Problem → String
  | badStart => "invalid start byte"
  | badContinuation => "invalid continuation byte"
  | cutShort => "unexpected end of data"

/-- Two digits to the base sixteen. -/
def octetDigits (n : UInt8) : String :=
  let digits := Nat.toDigits 16 n.toNat
  .ofList (List.replicate (2 - digits.length) '0' ++ digits)

/-- The wording of a fault. -/
def Utf8Fault.text (fault : Utf8Fault) : String :=
  let place :=
    if fault.count = 1 then
      "byte 0x" ++ octetDigits fault.octet ++ " in position " ++ toString fault.position
    else
      "bytes in position " ++ toString fault.position ++ "-" ++
        toString (fault.position + fault.count - 1)
  "'utf-8' codec can't decode " ++ place ++ ": " ++ fault.problem.reason

/-- The number of octets behind the first, and the range of the second, by the first. -/
def continuation? (first : UInt8) : Option (Nat × UInt8 × UInt8) :=
  if 0xC2 ≤ first && first ≤ 0xDF then some (1, 0x80, 0xBF)
  else if first == 0xE0 then some (2, 0xA0, 0xBF)
  else if first == 0xED then some (2, 0x80, 0x9F)
  else if 0xE1 ≤ first && first ≤ 0xEF then some (2, 0x80, 0xBF)
  else if first == 0xF0 then some (3, 0x90, 0xBF)
  else if 0xF1 ≤ first && first ≤ 0xF3 then some (3, 0x80, 0xBF)
  else if first == 0xF4 then some (3, 0x80, 0x8F)
  else none

/-- The octets that continue a character: how many of the next `count` fit, where the first of them
lies between `low` and `high`. -/
def fitting (low high : UInt8) : Nat → List UInt8 → Nat
  | 0, _ => 0
  | _, [] => 0
  | count + 1, octet :: rest =>
    if low ≤ octet && octet ≤ high then fitting 0x80 0xBF count rest + 1 else 0

/-- The code point of a character in `count + 1` octets. -/
def codePoint (first : UInt8) (count : Nat) (rest : List UInt8) : Nat :=
  (rest.take count).foldl (fun n octet => 64 * n + octet.toNat % 64)
    (first.toNat % .pow 2 (6 - count))

/-- The characters of octets from a position on; the first number bounds how many there are. -/
def decodeFrom : Nat → Nat → List UInt8 → Except Utf8Fault (List Char)
  | 0, _, _ => .ok []
  | _, _, [] => .ok []
  | fuel + 1, position, first :: rest =>
    if first < 0x80 then
      (decodeFrom fuel (position + 1) rest).map (Char.ofNat first.toNat :: ·)
    else match continuation? first with
      | none => .error ⟨.badStart, position, 1, first⟩
      | some (count, low, high) =>
        let found := fitting low high count rest
        if found = count then
          (decodeFrom fuel (position + 1 + count) (rest.drop count)).map
            (Char.ofNat (codePoint first count rest) :: ·)
        else if found < rest.length then .error ⟨.badContinuation, position, found + 1, first⟩
        else .error ⟨.cutShort, position, rest.length + 1, first⟩

/-- The text that octets are. -/
def decodeUtf8 (octets : List UInt8) : Except Utf8Fault String :=
  (decodeFrom octets.length 0 octets).map .ofList

end SchemaAtlas.Text

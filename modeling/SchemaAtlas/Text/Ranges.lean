/-!
# Classes of characters given by ranges

A class of characters is listed as closed ranges of code points in increasing order; `inRanges`
tests membership.
-/

namespace SchemaAtlas.Text

/-- The code point of `c` lies in one of the ranges, which are in increasing order. -/
def inRanges (table : List (Nat × Nat)) (c : Char) : Bool :=
  match table.find? fun r => c.toNat ≤ r.2 with
  | some r => r.1 ≤ c.toNat
  | none => false

end SchemaAtlas.Text

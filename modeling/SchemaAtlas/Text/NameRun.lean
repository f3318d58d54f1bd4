/-!
# Runs of names

A `NameRun` gives names to code points at equal distances, which have their first words in common:
the capitals of a script, say, where capitals and small letters take turns.
-/

namespace SchemaAtlas.Text

/-- Names of code points at equal distances. -/
structure NameRun where
  first : Nat
  step : Nat
  /-- What all names begin with. -/
  stem : String
  /-- How the names go on; the empty text stands for a code point left out. -/
  names : List String

/-- The names of a run with their code points. -/
def NameRun.entries (r : NameRun) : List (String × Nat) :=
  r.names.zipIdx.filterMap fun (rest, i) =>
    if rest.isEmpty then none else some (r.stem ++ rest, r.first + r.step * i)

/-- The code point with a name. -/
def NameRun.find? (r : NameRun) (name : String) : Option Nat :=
  r.entries.lookup name

theorem NameRun.find?_eq_none {r : NameRun} {name : String} :
    r.find? name = none ↔ ∀ entry ∈ r.entries, name ≠ entry.1 := by
  simp [NameRun.find?, List.lookup_eq_none_iff]

end SchemaAtlas.Text

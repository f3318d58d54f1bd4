import SchemaAtlas.Data.Basic
import SchemaAtlas.Text.Integer
import SchemaAtlas.Text.Separated

/-!
# Values in messages

`literal` writes a value so that its type can be seen, with texts between quotes; `shown` is the
same but for a scalar that stands alone, which is written as it is.  A message can hold a value only
if it `isWritable`: no integer in it has more digits than are converted.  `nesting` is how deep the
lists and mappings in a value stand in each other.
-/

namespace SchemaAtlas

open Text

namespace Data

mutual

/-- The value in a form that shows its type. -/
def literal : Data → String
  | scalar s => s.literal
  | list items => "[" ++ joined ", " (literals items) ++ "]"
  | mapping entries => "\x7b" ++ joined ", " (entryLiterals entries) ++ "\x7d"

/-- The items of a list, each in literal form. -/
def literals : List Data → List String
  | [] => []
  | item :: rest => literal item :: literals rest

/-- The entries of a mapping, each in literal form. -/
def entryLiterals : List (Scalar × Data) → List String
  | [] => []
  | (key, value) :: rest => (key.literal ++ ": " ++ literal value) :: entryLiterals rest

end

/-- The value as it is shown on its own. -/
def shown : Data → String
  | scalar s => s.shown
  | value => literal value

end Data

/-- The scalar is no integer that is too large to be written. -/
def Scalar.isWritable : Scalar → Bool
  | .int n => (Nat.toDigits 10 n.natAbs).length ≤ mostDigits
  | _ => true

namespace Data

mutual

/-- No integer in the value is too large to be written. -/
def isWritable : Data → Bool
  | scalar s => s.isWritable
  | list items => areWritable items
  | mapping entries => hasWritableEntries entries

/-- No integer in the items is too large to be written. -/
def areWritable : List Data → Bool
  | [] => true
  | item :: rest => isWritable item && areWritable rest

/-- No integer in the keys and values is too large to be written. -/
def hasWritableEntries : List (Scalar × Data) → Bool
  | [] => true
  | (key, value) :: rest => key.isWritable && isWritable value && hasWritableEntries rest

end

mutual

/-- How deep lists and mappings are nested in the value. -/
def nesting : Data → Nat
  | scalar _ => 0
  | list items => nestingOfItems items + 1
  | mapping entries => nestingOfEntries entries + 1

/-- The deepest nesting in an item. -/
def nestingOfItems : List Data → Nat
  | [] => 0
  | item :: rest => max (nesting item) (nestingOfItems rest)

/-- The deepest nesting in the value of an entry. -/
def nestingOfEntries : List (Scalar × Data) → Nat
  | [] => 0
  | (_, value) :: rest => max (nesting value) (nestingOfEntries rest)

end

end Data

end SchemaAtlas

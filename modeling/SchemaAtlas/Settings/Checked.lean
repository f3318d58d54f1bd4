import SchemaAtlas.Data.Basic
import SchemaAtlas.Text.Separated

/-!
# Checked input

Reading a section of the settings either succeeds or tells everything that is wrong with it.  A
`Violation` names the place, the `Problem` and the value found there.  `Checked` collects the
violations of independent parts in order, at least one; the one failure that hides all others is a
home directory that cannot be found.
-/

namespace SchemaAtlas

/-- What is wrong with a value. -/
inductive Problem where
  | notText
  | notList
  | notPair
  | notInteger
  | unreadableInteger
  | fractionalInteger
  | oversizedInteger
  | notFinite
  | belowOne (n : Int)
  | relativeFile (path : String)
  | nullName
  | noChoice (choices : List String)
  | notSection (title : String)
  | missing
  | tooMany (count : Nat)
  | unknownEntry

namespace Problem

/-- The choices between quotes, the last behind an `or`. -/
def choiceList : List String → String
  | [] => ""
  | [choice] => "'" ++ choice ++ "'"
  | [first, last] => "'" ++ first ++ "' or '" ++ last ++ "'"
  | first :: rest => "'" ++ first ++ "', " ++ choiceList rest

/-- The short name of a problem. -/
def code : Problem → String
  | notText => "string_type"
  | notList => "list_type"
  | notPair => "tuple_type"
  | notInteger => "int_type"
  | unreadableInteger => "int_parsing"
  | fractionalInteger => "int_from_float"
  | oversizedInteger => "int_parsing_size"
  | notFinite => "finite_number"
  | belowOne _ => "value_error"
  | relativeFile _ => "value_error"
  | nullName => "value_error"
  | noChoice _ => "literal_error"
  | notSection _ => "model_type"
  | missing => "missing"
  | tooMany _ => "too_long"
  | unknownEntry => "extra_forbidden"

/-- The wording of a problem. -/
def message : Problem → String
  | notText => "Input should be a valid string"
  | notList => "Input should be a valid list"
  | notPair => "Input should be a valid tuple"
  | notInteger => "Input should be a valid integer"
  | unreadableInteger => "Input should be a valid integer, unable to parse string as an integer"
  | fractionalInteger => "Input should be a valid integer, got a number with a fractional part"
  | oversizedInteger => "Unable to parse input string as an integer, exceeded maximum size"
  | notFinite => "Input should be a finite number"
  | belowOne n => "Value error, Must be at least 1, got " ++ toString n
  | relativeFile path => "Value error, File destination must be absolute path: " ++ path
  | nullName => "Value error, embedded null byte"
  | noChoice choices => "Input should be " ++ choiceList choices
  | notSection title => "Input should be a valid dictionary or instance of " ++ title
  | missing => "Field required"
  | tooMany count =>
    "Tuple should have at most 2 items after validation, not " ++ toString count
  | unknownEntry => "Extra inputs are not permitted"

end Problem

/-- A problem with the value at some place of the input. -/
structure Violation where
  /-- The names and positions that lead to the value. -/
  place : List String
  problem : Problem
  input : Data

/-- The violation as seen from the input that holds the value under `key`. -/
def Violation.below (key : String) (v : Violation) : Violation :=
  { v with place := key :: v.place }

/-- The place as one text. -/
def Violation.location (v : Violation) : String :=
  Text.joined "." v.place

/-- Input that has been checked. -/
inductive Checked (α : Type) where
  | valid (a : α)
  | invalid (first : Violation) (more : List Violation)
  | homeless

namespace Checked

variable {α β : Type}

/-- One violation at the place that is being read. -/
def reject (problem : Problem) (input : Data) : Checked α :=
  invalid ⟨[], problem, input⟩ []

/-- The result of applying a function. -/
def map (f : α → β) : Checked α → Checked β
  | valid a => valid (f a)
  | invalid first more => invalid first more
  | homeless => homeless

/-- Both parts checked; the violations of the first come first. -/
def both (f : Checked (α → β)) (x : Checked α) : Checked β :=
  match f, x with
  | homeless, _ => homeless
  | _, homeless => homeless
  | valid f, valid a => valid (f a)
  | valid _, invalid first more => invalid first more
  | invalid first more, valid _ => invalid first more
  | invalid first more, invalid second others => invalid first (more ++ second :: others)

instance : Functor Checked where
  map := map

instance : Applicative Checked where
  pure := valid
  seq f x := both f (x ())

/-- What was read at `key` of a larger input. -/
def under (key : String) : Checked α → Checked α
  | invalid first more => invalid (first.below key) (more.map (Violation.below key))
  | checked => checked

/-- A further check of an accepted value. -/
def andThen (x : Checked α) (f : α → Checked β) : Checked β :=
  match x with
  | valid a => f a
  | invalid first more => invalid first more
  | homeless => homeless

/-- Every item of a list, read in order; `position` is the place of the first. -/
def each (read : Data → Checked α) (position : Nat) : List Data → Checked (List α)
  | [] => valid []
  | item :: rest =>
    both (map List.cons (under (toString position) (read item))) (each read (position + 1) rest)

end Checked

end SchemaAtlas

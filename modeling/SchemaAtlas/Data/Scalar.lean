import SchemaAtlas.Calendar
import SchemaAtlas.Decimal.Binary64
import SchemaAtlas.Text.Quoted

/-!
# Scalars

A `Scalar` is a value without parts; it may also be the key of an entry.  `agrees` says which
scalars count as one key: integers, whole numbers and truth values of equal worth do, whatever their
type, and so do two moments that are the same.
-/

namespace SchemaAtlas

/-- A value without parts. -/
inductive Scalar where
  | null
  | bool (b : Bool)
  | int (n : Int)
  | real (x : Binary64)
  | text (s : String)
  | date (d : Date)
  | moment (m : Moment)
  deriving DecidableEq, Inhabited

/-- A text is a scalar. -/
instance : Coe String Scalar where
  coe := .text

namespace Scalar

/-- Absent, false, zero or empty. -/
def isBlank : Scalar → Bool
  | null => true
  | bool b => !b
  | int n => n == 0
  | real x => x.isFinite && x.significand == 0
  | text s => s.isEmpty
  | date _ => false
  | moment _ => false

/-- The text that the scalar is. -/
def text? : Scalar → Option String
  | text s => some s
  | _ => none

/-- The integer that the scalar is worth. -/
def worth? : Scalar → Option Int
  | bool b => some (if b then 1 else 0)
  | int n => some n
  | real x => x.toInt?
  | _ => none

/-- The scalars count as one key. -/
def agrees (a b : Scalar) : Bool :=
  match a, b with
  | moment m, moment n => m.agrees n
  | a, b => a == b || (a.worth?.isSome && a.worth? == b.worth?)

/-- The scalar in a form that shows its type. -/
def literal : Scalar → String
  | null => "None"
  | bool true => "True"
  | bool false => "False"
  | int n => toString n
  | real x => x.text
  | text s => Text.quoted s
  | date d => d.literal
  | moment m => m.literal

/-- The scalar as it is shown on its own. -/
def shown : Scalar → String
  | text s => s
  | date d => d.text
  | moment m => m.text
  | scalar => literal scalar

end Scalar

end SchemaAtlas

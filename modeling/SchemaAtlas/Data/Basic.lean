import SchemaAtlas.Data.Scalar
import SchemaAtlas.Keyed

/-!
# Dynamic values

`Data` is what configuration files, environment variables and requests hold before anything is known
about its shape: scalars, lists and mappings whose keys are scalars.  A `record` is a mapping whose
keys are texts.  Keys that agree are one key: `valueOf?` finds the value under it, and `putEntry`
puts one there.  `overlay` lays one value over another: mappings are merged key by key, and
everything else is replaced.
-/

namespace SchemaAtlas

/-- A value of a data file. -/
inductive Data where
  | scalar (s : Scalar)
  | list (items : List Data)
  | mapping (entries : List (Scalar × Data))
  deriving Inhabited

namespace Data

/-- No value. -/
@[match_pattern] abbrev null : Data := scalar .null

/-- A truth value. -/
@[match_pattern] abbrev bool (b : Bool) : Data := scalar (.bool b)

/-- An integer. -/
@[match_pattern] abbrev int (n : Int) : Data := scalar (.int n)

/-- A number in double precision. -/
@[match_pattern] abbrev real (x : Binary64) : Data := scalar (.real x)

/-- A text. -/
@[match_pattern] abbrev text (s : String) : Data := scalar (.text s)

/-- Entries whose keys are texts. -/
def textKeyed (entries : Keyed Data) : Keyed Data Scalar :=
  entries.map fun e => (.text e.1, e.2)

/-- The entries under texts, if all keys are texts. -/
def textKeyed? (entries : Keyed Data Scalar) : Option (Keyed Data) :=
  entries.mapM fun e => e.1.text?.map fun name => (name, e.2)

/-- A mapping whose keys are texts. -/
def record (entries : Keyed Data) : Data :=
  mapping (textKeyed entries)

/-- Absent, false, zero or empty. -/
def isBlank : Data → Bool
  | scalar s => s.isBlank
  | list items => items.isEmpty
  | mapping entries => entries.isEmpty

/-- The entries of a mapping. -/
def entries? : Data → Option (Keyed Data Scalar)
  | mapping entries => some entries
  | _ => none

/-- The value under a key that agrees with `key`. -/
def valueOf? (entries : Keyed Data Scalar) (key : Scalar) : Option Data :=
  (entries.find? fun e => e.1.agrees key).map Prod.snd

/-- The entries with `value` under the key that agrees with `key`, or else under `key`. -/
def putEntry (entries : Keyed Data Scalar) (key : Scalar) (value : Data) : Keyed Data Scalar :=
  match entries with
  | [] => [(key, value)]
  | e :: rest => if e.1.agrees key then (e.1, value) :: rest else e :: putEntry rest key value

mutual

/-- The value `upper` laid over `lower`. -/
def overlay (lower : Data) : Data → Data
  | mapping upper =>
    match lower with
    | mapping entries => mapping (overlayEntries entries upper)
    | _ => mapping upper
  | upper => upper

/-- The entries of `upper` laid over those of `lower`. -/
def overlayEntries (lower : List (Scalar × Data)) :
    List (Scalar × Data) → List (Scalar × Data)
  | [] => lower
  | (key, value) :: rest =>
    let merged := match valueOf? lower key with
      | some old => overlay old value
      | none => value
    overlayEntries (putEntry lower key merged) rest

end

theorem overlayEntries_nil (lower : Keyed Data Scalar) : overlayEntries lower [] = lower := by
  simp [overlayEntries]

theorem textKeyed?_textKeyed (entries : Keyed Data) : textKeyed? (textKeyed entries) = entries := by
  induction entries with
  | nil => rfl
  | cons e rest ih => simp_all [textKeyed?, textKeyed, Scalar.text?]

end Data

end SchemaAtlas

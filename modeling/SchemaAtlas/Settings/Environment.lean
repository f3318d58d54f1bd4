import SchemaAtlas.Data.Json
import SchemaAtlas.Keyed
import SchemaAtlas.Settings.Reading
import SchemaAtlas.Text.Lower
import SchemaAtlas.Text.Search

/-!
# Settings from environment variables

A variable named after a section holds the section as JSON, and one named after a section and an
entry holds that entry; letter case does not matter.  Entries that are lists are written as JSON
too. `environmentEntries` collects the sections that the variables set, and fails on a value that
should be JSON and is not, or is nested too deep.
-/

namespace SchemaAtlas

open Text

/-- What surrounds a program. -/
structure Surroundings where
  homes : Homes
  environment : List (String × String) := []
  /-- How deep the JSON in a variable may be nested. -/
  jsonDepth : Nat := 900
  /-- How deep a value may be nested that is written into a message. -/
  messageDepth : Nat := 900
  /-- The text of a settings file is not nested too deep to be read. -/
  follows : String → Bool := fun _ => true

/-- A variable of a section that cannot be read. -/
inductive EnvironmentFault where
  | unreadable (name : String)
  | tooDeep
  deriving DecidableEq

/-- What the names of all variables start with. -/
def variableStart : String :=
  "schemaplane__"

/-- The entries of a section. -/
def entryNames : String → List String
  | "logging" => ["level", "outputs"]
  | "paths" => ["schema_path", "docs_dir", "types_path"]
  | "docs" =>
    ["models_dir", "erd_max_models", "entity_field_limit", "erd_key_fields", "erd_key_field_limit"]
  | "lint" =>
    ["unique_candidates", "timestamp_fields", "join_table_patterns", "min_fields_for_timestamps",
      "fail_on", "disabled_rules"]
  | "typegen" => ["runtime_import", "auto_id_defaults", "timestamp_fields", "header_name"]
  | _ => []

/-- The entries whose values are lists. -/
def listEntryNames : List String :=
  ["outputs", "erd_key_fields", "unique_candidates", "timestamp_fields", "join_table_patterns",
    "disabled_rules", "auto_id_defaults"]

/-- The entry of a section with the given name in any letter case. -/
def entryNamed? (sectionName name : String) : Option String :=
  (entryNames sectionName).find? fun entry => lower entry == lower name

/-- The variables under their names in lower case. -/
def lowerNames (environment : List (String × String)) : Keyed String :=
  .ofList (environment.map fun v => (lower v.1, v.2))

/-- The parts of a text between double underscores. -/
def cutAtDoubleUnderscore : List Char → List (List Char)
  | [] => [[]]
  | '_' :: '_' :: rest => [] :: cutAtDoubleUnderscore rest
  | c :: rest =>
    match cutAtDoubleUnderscore rest with
    | [] => [[c]]
    | part :: parts => (c :: part) :: parts

/-- The names behind the section in the name of a variable. -/
def entryPath? (sectionName name : String) : Option (List String) :=
  (after? (variableStart ++ sectionName ++ "__") name.toList).map fun rest =>
    (cutAtDoubleUnderscore rest).map .ofList

/-- A value under a path of names.  What is no mapping on the way stays as it is. -/
def putAt (value : Data) : List String → Keyed Data Scalar → Keyed Data Scalar
  | [], entries => entries
  | [name], entries => entries.put name value
  | name :: more, entries =>
    match (entries.get? name).getD (.mapping []) with
    | .mapping inner => entries.put name (.mapping (putAt value more inner))
    | _ => entries

/-- The JSON in a variable of a section. -/
def variableJson (depth : Nat) (sectionName value : String) : Except EnvironmentFault Data :=
  match Data.ofJson depth value with
  | .ok d => .ok d
  | .error .malformed => .error (.unreadable sectionName)
  | .error .tooDeep => .error .tooDeep

/-- The value of a variable for an entry. -/
def variableValue (depth : Nat) (sectionName : String) (path : List String) (value : String) :
    Except EnvironmentFault Data :=
  let isList := match path with
    | [name] => ((entryNamed? sectionName name).map listEntryNames.contains).getD false
    | _ => false
  if isList && !value.isEmpty then variableJson depth sectionName value else .ok (.text value)

/-- The entries of a section that variables of their own set. -/
def entryVariables (depth : Nat) (sectionName : String) (environment : Keyed String) :
    Except EnvironmentFault (Keyed Data Scalar) :=
  environment.foldlM (fun entries v => do
    match entryPath? sectionName v.1 with
    | none => return entries
    | some path =>
      let value ← variableValue depth sectionName path v.2
      return putAt value path entries) []

/-- The proper form of the key of an entry. -/
def properKey (sectionName : String) : Scalar → Scalar
  | .text name => .text ((entryNamed? sectionName name).getD name)
  | key => key

/-- The entries of a section under their proper names. -/
def withProperNames (sectionName : String) : Data → Data
  | .mapping entries =>
    .mapping (Keyed.ofList (entries.map fun e => (properKey sectionName e.1, e.2)))
  | d => d

/-- What the variables set of a section. -/
def sectionVariables (depth : Nat) (environment : Keyed String) (sectionName : String) :
    Except EnvironmentFault (Option Data) := do
  match environment.get? (variableStart ++ sectionName) with
  | some value =>
    match ← variableJson depth sectionName value with
    | .null => return none
    | .mapping entries =>
      let more ← entryVariables depth sectionName environment
      return some (withProperNames sectionName (Data.overlay (.mapping entries) (.mapping more)))
    | d => return some d
  | none =>
    match ← entryVariables depth sectionName environment with
    | [] => return none
    | entries => return some (withProperNames sectionName (.mapping entries))

/-- The sections that the variables set. -/
def environmentEntries (surroundings : Surroundings) : Except EnvironmentFault (Keyed Data) := do
  let environment := lowerNames surroundings.environment
  let found ← sectionNames.mapM fun name => do
    return (← sectionVariables surroundings.jsonDepth environment name).map fun d => (name, d)
  return found.filterMap id

theorem putAt_singleton (value : Data) (name : String) (entries : Keyed Data Scalar) :
    putAt value [name] entries = entries.put name value := by
  simp [putAt]

end SchemaAtlas

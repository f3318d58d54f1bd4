import SchemaAtlas.Failure
import SchemaAtlas.Settings.Environment
import SchemaAtlas.Settings.Reading
import SchemaAtlas.Yaml.Reading

/-!
# Loading settings

Settings come from five sources.  `settingsOf` lays them over each other, the defaults at the
bottom, then the file of the user, the file of the project, the environment and the given
overrides, and reads the result; `loadSettings` reads the two files first.  A project's file states
a few entries without a section (`flatSections`) and may carry whole sections besides.  Only in the
file of the user can a section have a name that is no text, and then nothing is read.

How deep values may be nested depends on what surrounds the program: the text of a file, the JSON of
a variable and a value that is written into a message may each be too deep.
-/

namespace SchemaAtlas

/-- Why settings cannot be loaded. -/
inductive LoadFault where
  | failed (failure : Failure)
  /-- The variables of a section cannot be read. -/
  | badVariable (sectionName : String)
  /-- A file states something in the form of a value that does not exist. -/
  | improperValue (fault : Yaml.ScalarFault)
  /-- The name of a section is no text. -/
  | namelessSection
  /-- A value that is not accepted cannot be written into the message. -/
  | unwritableValue
  /-- Something is nested too deep to be followed. -/
  | tooDeep
  | homeless

/-- What a file in a form that cannot be read is reported with. -/
def malformedReason : String :=
  "<yaml>"

/-- The entries that the text of a settings file states, none if there is no file. -/
def fileEntries (path : String) : Option String → Except LoadFault (Keyed Data Scalar)
  | none => .ok []
  | some s =>
    match Data.ofYaml s with
    | .error .malformed => .error (.failed (.unreadableSettings path malformedReason))
    | .error (.improper fault) => .error (.improperValue fault)
    | .ok d =>
      if d.isBlank then .ok []
      else match d.entries? with
        | some entries => .ok entries
        | none => .error (.failed (.unreadableSettings path "top level must be a mapping"))

/-- Accepted input, or the first thing that is wrong with it. -/
def accept {α : Type} : Checked α → Except LoadFault α
  | .valid a => .ok a
  | .invalid v _ =>
    if v.input.isWritable then
      .error (.failed (.invalidSetting v.location v.input v.problem.message))
    else .error .unwritableValue
  | .homeless => .error .homeless

/-- The entries that a project's own file states without a section. -/
def flatNames : List String :=
  ["schema_path", "docs_dir", "types_path", "log_level"]

/-- The settings that the entries without a section state. -/
def userSettings (entries : Keyed Data Scalar) : Except LoadFault UserSettings :=
  accept (readUser (.mapping (entries.filter fun e => e.1.text?.any flatNames.contains)))

/-- The sections that a project's file may carry. -/
def carriedSections : List String :=
  ["docs", "lint", "typegen", "logging"]

/-- The sections of the entries without a section, of those that the file states. -/
def flatSections (user : UserSettings) (stated : List String) : Keyed Data :=
  let paths := [("schema_path", user.schemaPath), ("docs_dir", user.docsDir),
    ("types_path", user.typesPath)].filter fun e => stated.contains e.1
  (if paths.isEmpty then [] else [("paths", .record (paths.map fun e => (e.1, .text e.2)))]) ++
    if stated.contains "log_level" then
      [("logging", .record [("level", .text user.logLevel.name)])]
    else []

/-- The sections that a project's file carries as mappings. -/
def carriedEntries (entries : Keyed Data Scalar) : Keyed Data :=
  carriedSections.filterMap fun (name : String) =>
    match entries.get? name with
    | some (.mapping inner) => some (name, .mapping inner)
    | _ => none

/-- The sections of a project's file. -/
def projectSections (entries : Keyed Data Scalar) : Except LoadFault (Keyed Data Scalar) := do
  let user ← userSettings entries
  let stated := entries.keys.filterMap Scalar.text?
  return Data.overlayEntries (Data.textKeyed (flatSections user stated))
    (Data.textKeyed (carriedEntries entries))

/-- Accepted input, or the first thing that is wrong with it, whose value must not be nested deeper
than `depth`.  What comes from a single file needs no such check: a text that can be read holds
nothing that is too deep for a message. -/
def acceptWithin {α : Type} (depth : Nat) : Checked α → Except LoadFault α
  | .invalid v more =>
    if v.input.nesting ≤ depth then accept (.invalid v more) else .error .tooDeep
  | checked => accept checked

/-- The sources laid over each other, where `userFile` and `project` are the sections of the two
files. -/
def mergedSections (surroundings : Surroundings) (userFile project overrides : Keyed Data Scalar) :
    Except LoadFault (Keyed Data Scalar) := do
  let environment ← match environmentEntries surroundings with
    | .ok entries => pure (Data.textKeyed entries)
    | .error (.unreadable name) => throw (.badVariable name)
    | .error .tooDeep => throw .tooDeep
  let files := Data.overlayEntries userFile project
  return Data.overlayEntries files (Data.overlayEntries environment overrides)

/-- The settings that the sources state together. -/
def settingsOf (surroundings : Surroundings) (userFile project overrides : Keyed Data Scalar) :
    Except LoadFault Settings := do
  match Data.textKeyed? (← mergedSections surroundings userFile project overrides) with
  | some sections =>
    acceptWithin surroundings.messageDepth (readRoot surroundings.homes sections)
  | none => throw .namelessSection

/-- A settings file that may be missing. -/
structure SettingsFile where
  path : String
  text : Option String

/-- The entries that a settings file states. -/
def SettingsFile.entries (file : SettingsFile) : Except LoadFault (Keyed Data Scalar) :=
  fileEntries file.path file.text

/-- The entries that a settings file states, unless its text is nested too deep. -/
def Surroundings.entriesOf (surroundings : Surroundings) (file : SettingsFile) :
    Except LoadFault (Keyed Data Scalar) :=
  if file.text.all surroundings.follows then file.entries else .error .tooDeep

/-- The settings of the user's file and the project's file, of the environment and of some
overrides. -/
def loadSettings (surroundings : Surroundings) (userFile projectFile : SettingsFile)
    (overrides : Keyed Data Scalar) : Except LoadFault Settings := do
  let project ← projectSections (← surroundings.entriesOf projectFile)
  let user ← surroundings.entriesOf userFile
  settingsOf surroundings user project overrides

/-- The settings that are loaded, checked once more in their written form.  By then the sources have
been accepted, so what is wrong is not reported as a fault of theirs. -/
def recheckedSettings (surroundings : Surroundings) (userFile projectFile : SettingsFile)
    (overrides : Keyed Data Scalar) : Except LoadFault (Checked Settings) := do
  let settings ← loadSettings surroundings userFile projectFile overrides
  return readSettings surroundings.homes settings.toData

/-- The settings that a project's file states without a section. -/
def loadUserSettings (file : SettingsFile) : Except LoadFault UserSettings := do
  userSettings (← file.entries)

end SchemaAtlas

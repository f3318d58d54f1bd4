import SchemaAtlas.Path
import SchemaAtlas.Settings.Basic
import SchemaAtlas.Settings.Checked
import SchemaAtlas.Text.Integer

/-!
# Reading settings

Each section is read from a mapping by `readDocs`, `readLint` and so on: an absent entry has its
default, unknown entries are passed over, and an integer may also be written as a text, as a number
without a fraction or as a truth value.  `readSettings` reads all sections; `readRoot` also refuses
entries that are no section.  `Settings.toData` and its companions write the sections back.
-/

namespace SchemaAtlas

open Text

/-! ### Single values -/

/-- A text. -/
def readText : Data → Checked String
  | .text s => .valid s
  | d => .reject .notText d

/-- A list of texts. -/
def readTexts : Data → Checked (List String)
  | .list items => .each readText 0 items
  | d => .reject .notList d

/-- Two texts. -/
def readPair : Data → Checked (String × String)
  | .list [] =>
    .invalid ⟨["0"], .missing, .list []⟩ [⟨["1"], .missing, .list []⟩]
  | .list [a] =>
    .both (.map Prod.mk (.under "0" (readText a))) (.invalid ⟨["1"], .missing, .list [a]⟩ [])
  | .list [a, b] =>
    .both (.map Prod.mk (.under "0" (readText a))) (.under "1" (readText b))
  | .list items => .reject (.tooMany items.length) (.list items)
  | d => .reject .notPair d

/-- One of the given values, by its name. -/
def readChoice {α : Type} (choices : List α) (name : α → String) (d : Data) : Checked α :=
  let found := match d with
    | .text s => choices.find? fun c => name c == s
    | _ => none
  match found with
  | some c => .valid c
  | none => .reject (.noChoice (choices.map name)) d

/-- An integer. -/
def readInteger (d : Data) : Checked Int :=
  match d with
  | .int n => .valid n
  | .bool b => .valid (if b then 1 else 0)
  | .real x =>
    if x.isFinite then
      match x.toInt? with
      | some n => if n.natAbs < .pow 2 63 then .valid n else .reject .oversizedInteger d
      | none => .reject .fractionalInteger d
    else .reject .notFinite d
  | .text s =>
    match integerOf s with
    | .ok n => .valid n
    | .error .unreadable => .reject .unreadableInteger d
    | .error .oversized => .reject .oversizedInteger d
  | d => .reject .notInteger d

/-- An integer that is at least one. -/
def readLimit (d : Data) : Checked Limit :=
  (readInteger d).andThen fun n =>
    if h : 1 ≤ n.toNat then .valid ⟨n.toNat, h⟩ else .reject (.belowOne n) d

/-- A stream of the terminal, or an absolute path; a leading tilde stands for a home directory. -/
def readDestination (homes : Homes) (d : Data) : Checked Destination :=
  (readText d).andThen fun s =>
    if s == "stderr" then .valid .stderr
    else if s == "stdout" then .valid .stdout
    else match (Path.ofText s).expandHome homes with
      | .error .unknownUser => .homeless
      | .error .nullName => .reject .nullName d
      | .ok path =>
        if path.isAbsolute then .valid (.file path.text) else .reject (.relativeFile s) d

/-- A value that may be left open. -/
def readOptional {α : Type} (read : Data → Checked α) : Data → Checked (Option α)
  | .null => .valid none
  | d => .map some (read d)

/-! ### Sections -/

/-- The entry of a mapping, or its default. -/
def readEntry {α : Type} (entries : Keyed Data Scalar) (key : String)
    (read : Data → Checked α) (fallback : α) : Checked α :=
  match entries.get? key with
  | some d => .under key (read d)
  | none => .valid fallback

/-- A section that is read from its entries. -/
def readSection {α : Type} (title : String) (read : Keyed Data Scalar → Checked α) :
    Data → Checked α
  | .mapping entries => read entries
  | d => .reject (.notSection title) d

/-- The name of a log level. -/
def readLevel : Data → Checked LogLevel :=
  readChoice LogLevel.all LogLevel.name

/-- One output of the log. -/
def readLogOutput (homes : Homes) : Data → Checked LogOutput :=
  readSection "LogOutputConfig" fun entries =>
    let standard : LogOutput := {}
    LogOutput.mk
      <$> readEntry entries "format" (readChoice LogFormat.all LogFormat.name) standard.format
      <*> readEntry entries "destination" (readDestination homes) standard.destination
      <*> readEntry entries "level" (readOptional readLevel) standard.level

/-- The outputs of the log. -/
def readLogOutputs (homes : Homes) : Data → Checked (List LogOutput)
  | .list items => .each (readLogOutput homes) 0 items
  | d => .reject .notList d

/-- The log section. -/
def readLog (homes : Homes) : Data → Checked LogSettings :=
  readSection "LoggingConfig" fun entries =>
    let standard : LogSettings := {}
    LogSettings.mk
      <$> readEntry entries "level" readLevel standard.level
      <*> readEntry entries "outputs" (readLogOutputs homes) standard.outputs

/-- The path section. -/
def readPaths : Data → Checked PathSettings :=
  readSection "PathsConfig" fun entries =>
    let standard : PathSettings := {}
    PathSettings.mk
      <$> readEntry entries "schema_path" readText standard.schemaPath
      <*> readEntry entries "docs_dir" readText standard.docsDir
      <*> readEntry entries "types_path" readText standard.typesPath

/-- The documentation section. -/
def readDocs : Data → Checked DocSettings :=
  readSection "DocsConfig" fun entries =>
    let standard : DocSettings := {}
    DocSettings.mk
      <$> readEntry entries "models_dir" readText standard.modelsDir
      <*> readEntry entries "erd_max_models" readLimit standard.erdMaxModels
      <*> readEntry entries "entity_field_limit" readLimit standard.entityFieldLimit
      <*> readEntry entries "erd_key_fields" readTexts standard.erdKeyFields
      <*> readEntry entries "erd_key_field_limit" readLimit standard.erdKeyFieldLimit

/-- The validator section. -/
def readLint : Data → Checked LintSettings :=
  readSection "LintConfig" fun entries =>
    let standard : LintSettings := {}
    LintSettings.mk
      <$> readEntry entries "unique_candidates" readTexts standard.uniqueCandidates
      <*> readEntry entries "timestamp_fields" readPair standard.timestampFields
      <*> readEntry entries "join_table_patterns" readTexts standard.joinTablePatterns
      <*> readEntry entries "min_fields_for_timestamps" readInteger standard.minFieldsForTimestamps
      <*> readEntry entries "fail_on" (readChoice Severity.all Severity.name) standard.failOn
      <*> readEntry entries "disabled_rules" readTexts standard.disabledRules

/-- The type generator section. -/
def readTypegen : Data → Checked TypeSettings :=
  readSection "TypegenConfig" fun entries =>
    let standard : TypeSettings := {}
    TypeSettings.mk
      <$> readEntry entries "runtime_import" readText standard.runtimeImport
      <*> readEntry entries "auto_id_defaults" readTexts standard.autoIdDefaults
      <*> readEntry entries "timestamp_fields" readTexts standard.timestampFields
      <*> readEntry entries "header_name" readText standard.headerName

/-- All sections, from their entries. -/
def readSections (homes : Homes) (entries : Keyed Data Scalar) : Checked Settings :=
  let standard : Settings := {}
  Settings.mk
    <$> readEntry entries "logging" (readLog homes) standard.logging
    <*> readEntry entries "paths" readPaths standard.paths
    <*> readEntry entries "docs" readDocs standard.docs
    <*> readEntry entries "lint" readLint standard.lint
    <*> readEntry entries "typegen" readTypegen standard.typegen

/-- The sections of the settings, in order. -/
def sectionNames : List String :=
  ["logging", "paths", "docs", "lint", "typegen"]

/-- All settings; entries that are no section are passed over. -/
def readSettings (homes : Homes) : Data → Checked Settings :=
  readSection "SchemaPlaneConfig" (readSections homes)

/-- All settings; entries that are no section are violations. -/
def readRoot (homes : Homes) (entries : Keyed Data) : Checked Settings :=
  match entries.filter fun e => !sectionNames.contains e.1 with
  | [] => readSections homes (Data.textKeyed entries)
  | stranger :: more =>
    let violation := fun (e : String × Data) => (⟨[e.1], .unknownEntry, e.2⟩ : Violation)
    .both (.map (fun settings _ => settings) (readSections homes (Data.textKeyed entries)))
      (.invalid (violation stranger) (more.map violation) : Checked Unit)

/-- The entries of a project's own file that stand outside sections. -/
def readUser : Data → Checked UserSettings :=
  readSection "UserConfig" fun entries =>
    let standard : UserSettings := {}
    UserSettings.mk
      <$> readEntry entries "schema_path" readText standard.schemaPath
      <*> readEntry entries "docs_dir" readText standard.docsDir
      <*> readEntry entries "types_path" readText standard.typesPath
      <*> readEntry entries "log_level" readLevel standard.logLevel

/-! ### Writing the sections back -/

/-- A list of texts as a value. -/
def Data.ofTexts (texts : List String) : Data :=
  .list (texts.map .text)

/-- An output of the log as a value. -/
def LogOutput.toData (o : LogOutput) : Data :=
  .record [("format", .text o.format.name), ("destination", .text o.destination.text),
    ("level", match o.level with
      | some level => .text level.name
      | none => .null)]

/-- The log section as a value. -/
def LogSettings.toData (s : LogSettings) : Data :=
  .record [("level", .text s.level.name), ("outputs", .list (s.outputs.map LogOutput.toData))]

/-- The path section as a value. -/
def PathSettings.toData (s : PathSettings) : Data :=
  .record [("schema_path", .text s.schemaPath), ("docs_dir", .text s.docsDir),
    ("types_path", .text s.typesPath)]

/-- The documentation section as a value. -/
def DocSettings.toData (s : DocSettings) : Data :=
  .record [("models_dir", .text s.modelsDir), ("erd_max_models", .int s.erdMaxModels.val),
    ("entity_field_limit", .int s.entityFieldLimit.val),
    ("erd_key_fields", .ofTexts s.erdKeyFields),
    ("erd_key_field_limit", .int s.erdKeyFieldLimit.val)]

/-- The validator section as a value. -/
def LintSettings.toData (s : LintSettings) : Data :=
  .record [("unique_candidates", .ofTexts s.uniqueCandidates),
    ("timestamp_fields", .list [.text s.timestampFields.1, .text s.timestampFields.2]),
    ("join_table_patterns", .ofTexts s.joinTablePatterns),
    ("min_fields_for_timestamps", .int s.minFieldsForTimestamps),
    ("fail_on", .text s.failOn.name), ("disabled_rules", .ofTexts s.disabledRules)]

/-- The type generator section as a value. -/
def TypeSettings.toData (s : TypeSettings) : Data :=
  .record [("runtime_import", .text s.runtimeImport),
    ("auto_id_defaults", .ofTexts s.autoIdDefaults),
    ("timestamp_fields", .ofTexts s.timestampFields), ("header_name", .text s.headerName)]

/-- All settings as a value. -/
def Settings.toData (s : Settings) : Data :=
  .record [("logging", s.logging.toData), ("paths", s.paths.toData), ("docs", s.docs.toData),
    ("lint", s.lint.toData), ("typegen", s.typegen.toData)]

/-- The entries of a project's own file as a value. -/
def UserSettings.toData (s : UserSettings) : Data :=
  .record [("schema_path", .text s.schemaPath), ("docs_dir", .text s.docsDir),
    ("types_path", .text s.typesPath), ("log_level", .text s.logLevel.name)]

end SchemaAtlas

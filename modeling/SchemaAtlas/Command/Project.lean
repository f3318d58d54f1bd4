import SchemaAtlas.Command.Program
import SchemaAtlas.Schema.Source

/-!
# The project of a command

A command works on the project whose directory holds the working directory.  `findRoot` finds it,
`loadSettings` reads its settings and applies those of the log, and `openProject` reads its schema as
well.
-/

namespace SchemaAtlas.Command

variable {m : Type → Type} [Monad m] [Host m]

/-- The directory that holds the settings of a project. -/
def settingsDirectory : String :=
  ".schemaplane"

/-- The settings file of the project at a directory. -/
def settingsPath (root : Path) : Path :=
  root.join ⟨.relative, [settingsDirectory, "config.yaml"]⟩

/-- A project begins at the directory. -/
def isRoot (path : Path) : m Bool := do
  if ← Host.isDirectory (path.join ⟨.relative, [settingsDirectory]⟩) then return true
  return (← Host.kind? (path.join ⟨.relative, [".git"]⟩)).isSome

/-- The first of some directories at which a project begins. -/
def firstRoot? : List Path → m (Option Path)
  | [] => return none
  | path :: rest => do if ← isRoot path then return some path else firstRoot? rest

/-- The project that holds a directory, or the directory itself if none does. -/
def findRootFrom (start : Path) : m Path := do
  let start := start.resolved (← Host.workingDirectory)
  return (← firstRoot? start.andAbove).getD start

/-- The project that holds the working directory. -/
def findRoot : m Path := do
  findRootFrom (← Host.workingDirectory)

/-- The place of a path that is given in the settings of a project. -/
def placeOf (root : Path) (given : String) : Program m Path := do
  let surroundings ← Host.surroundings (m := m)
  let path ← Program.orHomeless ((Path.ofText given).expandHome surroundings.homes)
  return root.join path

/-- The path as it is shown to users of a project. -/
def displayed (root path : Path) : String :=
  ((path.relativeTo? root).getD path).text

/-- The text of a settings file, with its line ends unified; none if there is no such file. -/
def settingsText (path : Path) : Program m SettingsFile := do
  match ← Host.kind? (m := m) path with
  | none => return ⟨path.text, none⟩
  | some _ =>
    let octets ← Program.orFileFault (← Host.read (m := m) path)
    let text ← Program.orHalt (fun fault => .interrupted (.undecodable fault))
      (Text.decodeUtf8 octets)
    return ⟨path.text, some (.ofList (Text.unifyNewlines text.toList))⟩

/-- The files of the log are opened and its settings take effect. -/
def applyLogSettings (settings : LogSettings) : Program m Unit := do
  settings.files.forM fun file => do
    let path := Path.ofText file
    Program.orFileFault (← Host.makeRoomFor (m := m) path)
    Program.orFileFault (← Host.openLog (m := m) (path.resolved (← Host.workingDirectory (m := m))))
  let state ← Host.logState (m := m)
  Host.setLogState (m := m) { state with settings := some settings }

/-- The settings of the project at a directory.  Those of the log take effect unless everything is
to be logged. -/
def loadSettings (root : Path) (verbose : Bool) : Program m Settings := do
  let surroundings ← Host.surroundings (m := m)
  let project ← Program.orLoadFault (surroundings.entriesOf (← settingsText (settingsPath root)))
  let project ← Program.orLoadFault (projectSections project)
  let userFile ← settingsText (← Host.userFile (m := m))
  let user ← Program.orLoadFault (surroundings.entriesOf userFile)
  let settings ← Program.orLoadFault (settingsOf surroundings user project [])
  if !verbose then applyLogSettings settings.logging
  return settings

/-- The text of a schema, or why there is none. -/
def readSchema (path : Path) : m (Except Failure String) := do
  if ← Host.isFile path then
    match ← Host.read path with
    | .error fault => return .error (.unreadableSchema path.text fault.text)
    | .ok octets =>
      match Text.decodeUtf8 octets with
      | .error fault => return .error (.unreadableSchema path.text fault.text)
      | .ok text => return .ok (.ofList (Text.unifyNewlines text.toList))
  else return .error (.missingSchema path.text)

/-- A project whose schema has been read. -/
structure Project where
  root : Path
  settings : Settings
  schemaPath : Path
  schema : Schema

/-- The project that holds the working directory, with the schema at the given path or else where
the settings say. -/
def openProject (verbose : Bool) (given : Option String) : Program m Project := do
  let root ← findRoot (m := m)
  let settings ← loadSettings root verbose
  if given.isNone && (Text.trimmed settings.paths.schemaPath).isEmpty then
    throw (.failed (Failure.missingSetting "paths.schema_path").text)
  let path ← placeOf root (given.getD settings.paths.schemaPath)
  let text ← Program.orFailure (← readSchema (m := m) path)
  let schema := Schema.ofText text
  Host.record (m := m) ⟨.debug, "schema_loaded", [("path", .text path.text),
    ("models", .int schema.models.length), ("enums", .int schema.enumerations.length)]⟩
  return ⟨root, settings, path, schema⟩

/-- What went wrong when a text was written. -/
def writeFailure? : Except FileFault Unit → Path → Option Failure
  | .ok (), _ => none
  | .error fault, path => some (.failedWrite path.text fault.text)

/-- A file that a command writes. -/
structure Output where
  path : Path
  text : String

/-- Writes a file and the directories above it. -/
def Output.write (output : Output) : m (Option StepFailure) := do
  let result ← Host.writeWithin output.path output.text
  return (writeFailure? result output.path).map fun failure => .raised failure.text

end SchemaAtlas.Command

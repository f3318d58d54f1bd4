import SchemaAtlas.Command.Form
import SchemaAtlas.Command.Project
import SchemaAtlas.Progress
import SchemaAtlas.Settings.File

/-!
# Setting up a project

`setUp` writes the settings file of a project.  A file that is there already stays as it is unless
`SetUpOptions` say otherwise.  The schema that is recorded is the given one, or the first
that is found at one of the usual places.
-/

namespace SchemaAtlas.Command

open Text

variable {m : Type → Type} [Monad m] [Host m]

/-- What can be asked of `setUp`. -/
structure SetUpOptions where
  /-- The directory of the project; by default the one that holds the working directory. -/
  path : Option String := none
  force : Bool := false
  schemaPath : Option String := none

/-- The command line of `setUp`. -/
def setUpForm : CommandForm where
  name := "init"
  summary := "Write the settings file of a project."
  options := [⟨"--force", "force", .flag true⟩, ⟨"-f", "force", .flag true⟩,
    ⟨"--schema", "schema", .value .anything⟩]
  argument := some ⟨"PATH", .existingDirectory⟩

/-- The options that a command line gives. -/
def SetUpOptions.ofArguments (arguments : Arguments) : SetUpOptions where
  path := arguments.words.head?
  force := arguments.isSet "force"
  schemaPath := arguments.value? "schema"

/-- Where a schema usually is, first choice first. -/
def usualSchemaPaths : List String :=
  [({} : PathSettings).schemaPath, "schema.prisma", "prisma/schema/schema.prisma"]

/-- The first of some paths below a directory at which there is a file. -/
def firstFile? (root : Path) : List String → m (Option String)
  | [] => return none
  | path :: rest => do
    if ← Host.isFile (root.join (.ofText path)) then return some path else firstFile? root rest

/-- Where the schema of a project is found. -/
def findSchemaPath (root : Path) : m (Option String) :=
  firstFile? root usualSchemaPaths

/-- The schema path to record, and whether it was given or found. -/
def schemaPathToRecord (root : Path) (given : Option String) : m (Option String) :=
  match given with
  | none | some "" => findSchemaPath root
  | some path => return some path

/-- Writes the settings file of a project, unless there is one that has to stay. -/
def setUp (options : SetUpOptions) : Program m Nat := do
  let root ← match options.path with
    | some path => pure ((Path.ofText path).resolved (← Host.workingDirectory (m := m)))
    | none => findRoot (m := m)
  let path := settingsPath root
  if (← Host.kind? (m := m) path).isSome && !options.force then
    Program.tell ("Already initialized: " ++ path.parent.text) .info 0
    Program.tell "Use --force to reinitialize" .info 0
    return 0
  Program.tell ("Initializing SchemaPlane in " ++ root.text) .plain 0
  let standard : UserSettings := {}
  let found ← schemaPathToRecord (m := m) root options.schemaPath
  match found with
  | none => Program.tell ("No schema found, defaulting to " ++ standard.schemaPath) .warning 0
  | some found => Program.tell ("Schema: " ++ found) .info 0
  let settings : UserSettings := { standard with schemaPath := found.getD standard.schemaPath }
  Program.orFileFault (← Host.writeWithin (m := m) path settings.fileText)
  Program.present (.verbatim "")
  Program.tell ("Config created at " ++ displayed root path) .success 0
  Program.tell "Ready. Run 'spl validate' to lint the schema." .plain 0
  return 0

end SchemaAtlas.Command

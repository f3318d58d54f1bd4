import SchemaAtlas.Command.Form
import SchemaAtlas.Command.Project
import SchemaAtlas.Progress
import SchemaAtlas.Schema.Grouping
import SchemaAtlas.Text.Summary
import SchemaAtlas.Types.TypeScript

/-!
# Generating record types

`generate` writes the record types of a schema to a file or prints them.
-/

namespace SchemaAtlas.Command

open Text

variable {m : Type → Type} [Monad m] [Host m]

/-- What can be asked of `generate`. -/
structure GenerateOptions where
  schemaPath : Option String := none
  /-- The file to write; by default the one that the settings name. -/
  file : Option String := none
  /-- The types are printed and no file is written. -/
  isPrinted : Bool := false

/-- The command line of `generate`. -/
def generateForm : CommandForm where
  name := "types"
  summary := "Generate record types for every model."
  options := [schemaOption, ⟨"--out", "out", .value .file⟩, ⟨"--stdout", "stdout", .flag true⟩]

/-- The options that a command line gives. -/
def GenerateOptions.ofArguments (arguments : Arguments) : GenerateOptions where
  schemaPath := arguments.value? schemaOption.name
  file := arguments.value? "out"
  isPrinted := arguments.isSet "stdout"

/-- The names that stand for nothing, in their order and once each. -/
def unresolvedNames (bundle : TypeBundle) : List String :=
  inTextOrder id (bundle.unresolved.map UnresolvedType.typeName).eraseDups

/-- The models and enumerations of a bundle, counted. -/
def bundleCounts (bundle : TypeBundle) : String :=
  counted bundle.models.length "model" ++ ", " ++ counted bundle.enumerations.length "enum"

/-- Writes or prints the record types of a schema. -/
def generate (options : GenerateOptions) (verbose : Bool) : Program m Nat := do
  let project ← openProject verbose options.schemaPath
  let settings := project.settings.typegen
  let bundle := TypeBundle.ofSchema settings project.schema
  let text ← Program.orBlankValue (bundle.moduleText settings)
  let unresolved := unresolvedNames bundle
  if !unresolved.isEmpty then
    Program.tell ("Unresolved types kept as-is: " ++ nameSummary usualNames usualWidth unresolved)
      .warning 0
  if options.isPrinted then
    Host.print (m := m) text
    return 0
  let file ← placeOf project.root (options.file.getD project.settings.paths.typesPath)
  let output : Output := ⟨file, text⟩
  let writing := Step.task ("Writing " ++ displayed project.root file) [.act output]
  Program.orStepFailure (← Step.run (m := m) Output.write writing)
  Program.tell (bundleCounts bundle) .info 2
  return 0

end SchemaAtlas.Command

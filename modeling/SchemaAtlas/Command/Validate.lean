import SchemaAtlas.Command.Form
import SchemaAtlas.Command.Project
import SchemaAtlas.Lint.Listing
import SchemaAtlas.Lint.Record
import SchemaAtlas.Lint.Registry
import SchemaAtlas.Progress

/-!
# Validating a schema

`validate` runs the rules over a schema and shows what they have found, as lines or as JSON.  Its
exit status is 1 if an issue is at least as serious as the threshold, which the command line gives
or else the settings, and 0 if not.
-/

namespace SchemaAtlas.Command

open Text

variable {m : Type → Type} [Monad m] [Host m]

/-- What can be asked of `validate`. -/
structure ValidateOptions where
  schemaPath : Option String := none
  asJson : Bool := false
  /-- The least serious finding that fails the check. -/
  threshold : Option Severity := none

/-- The command line of `validate`. -/
def validateForm : CommandForm where
  name := "validate"
  summary := "Check the schema for missing indexes, broken relations and conventions."
  options := [schemaOption, jsonOption,
    ⟨"--fail-on", "fail-on", .value (.oneOf (Severity.all.map Severity.name))⟩]

/-- The options that a command line gives. -/
def ValidateOptions.ofArguments (arguments : Arguments) : ValidateOptions where
  schemaPath := arguments.value? schemaOption.name
  asJson := arguments.isSet jsonOption.name
  threshold := (arguments.value? "fail-on").bind Severity.ofName?

/-- What a report comes to, with the style that it is marked with. -/
def verdict (report : Report) (threshold : Severity) (models : Nat) : String × StatusStyle :=
  if report.fails threshold then ("Schema has issues: " ++ report.summary, .error)
  else if report.issues.isEmpty then
    ("Schema is clean (" ++ toString models ++ " models checked)", .success)
  else ("Schema passed with " ++ report.summary, .warning)

/-- The exit status for a report. -/
def exitStatus (report : Report) (threshold : Severity) : Nat :=
  if report.fails threshold then 1 else 0

/-- Shows a report with its verdict. -/
def presentReport (report : Report) (threshold : Severity) (models : Nat) : Program m Unit := do
  report.listing.forM Program.present
  Program.present (.verbatim "")
  let (message, style) := verdict report threshold models
  Program.tell message style 0

/-- Shows a report on a schema with the given number of models, and tells the exit status. -/
def concludeReport (report : Report) (threshold : Severity) (asJson : Bool) (models : Nat) :
    Program m Nat := do
  if asJson then printJson (m := m) report.toData else presentReport report threshold models
  return exitStatus report threshold

/-- Runs the rules over a schema. -/
def validate (options : ValidateOptions) (verbose : Bool) : Program m Nat := do
  let project ← openProject verbose options.schemaPath
  let settings := project.settings.lint
  let report ← Program.orPatternFault (Lint.validate settings project.schema)
  concludeReport report (options.threshold.getD settings.failOn) options.asJson
    project.schema.models.length

end SchemaAtlas.Command

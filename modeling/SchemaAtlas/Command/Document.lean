import SchemaAtlas.Command.Form
import SchemaAtlas.Command.Project
import SchemaAtlas.Docs.Bundle
import SchemaAtlas.Progress
import SchemaAtlas.Text.Summary

/-!
# Documenting a schema

`document` writes the documentation of a schema to a directory, for all models or for a selection of
them.  A failure to write a file ends the command; the files in front of it stay.
-/

namespace SchemaAtlas.Command

open Text

variable {m : Type → Type} [Monad m] [Host m]

/-- What can be asked of `document`. -/
structure DocumentOptions where
  schemaPath : Option String := none
  /-- The directory to write to; by default the one that the settings name. -/
  directory : Option String := none
  /-- Names of models, with commas in between. -/
  only : Option String := none
  category : Option String := none
  /-- The index names the day. -/
  isDated : Bool := true

/-- The command line of `document`. -/
def documentForm : CommandForm where
  name := "docs"
  summary := "Write pages for the models, an index and diagrams."
  options := [schemaOption, ⟨"--out", "out", .value .directory⟩,
    ⟨"--only", "only", .value .anything⟩, ⟨"--category", "category", .value .anything⟩,
    ⟨"--date", "date", .flag true⟩, ⟨"--no-date", "date", .flag false⟩]

/-- The options that a command line gives. -/
def DocumentOptions.ofArguments (arguments : Arguments) : DocumentOptions where
  schemaPath := arguments.value? schemaOption.name
  directory := arguments.value? "out"
  only := arguments.value? "only"
  category := arguments.value? "category"
  isDated := arguments.options.get? "date" != some (.flag false)

/-- The names in a text with commas, without blank ones. -/
def namesBetweenCommas (s : String) : List String :=
  ((cutAt ',' s.toList).map fun part => trimmed (.ofList part)).filter fun name => !name.isEmpty

/-- The names that no model has, letter case aside. -/
def unknownNames (s : Schema) (names : List String) : List String :=
  names.filter fun name => !(s.models.map fun m => lower m.name).contains (lower name)

/-- The files of the documentation below a directory. -/
def outputsOf (directory : Path) (files : Keyed String) : List Output :=
  files.map fun file => ⟨directory.join (.ofText file.1), file.2⟩

/-- What is said when the documentation has been written. -/
def documentedMessages (place : String) (pages : Nat) : List (String × StatusStyle × Int) :=
  [("Documentation generated in " ++ place ++ "/", .success, 0),
    (counted pages "model doc" ++ " generated", .info, 2),
    (Docs.indexPath ++ " (index) generated", .info, 2),
    (Docs.diagramPath ++ " (diagrams) generated", .info, 2)]

/-- Writes the documentation of a schema. -/
def document (options : DocumentOptions) (verbose : Bool) : Program m Nat := do
  let project ← openProject verbose options.schemaPath
  let directory ← placeOf project.root (options.directory.getD project.settings.paths.docsDir)
  let names := (options.only.map namesBetweenCommas).getD []
  let unknown := unknownNames project.schema names
  if !unknown.isEmpty then
    Program.tell ("Unknown models ignored: " ++ nameSummary usualNames usualWidth unknown)
      .warning 0
  let day ← if options.isDated then some <$> Host.today (m := m) else pure none
  let rendered := Docs.bundle project.settings.docs ⟨names, options.category⟩
    ⟨displayed project.root project.schemaPath, day⟩ project.schema
  let outputs := match rendered with
    | .ok bundle => outputsOf directory bundle.files
    | .error _ => []
  let writing := Step.spinner "Rendering documentation" 0 (outputs.map Step.act)
  Program.orStepFailure (← Step.run (m := m) Output.write writing)
  let bundle ← Program.orBlankValue rendered
  let messages := documentedMessages (displayed project.root directory) bundle.modelPages.length
  messages.forM fun message => Program.tell message.1 message.2.1 message.2.2
  return 0

end SchemaAtlas.Command

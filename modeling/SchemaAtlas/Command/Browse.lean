import SchemaAtlas.Command.Form
import SchemaAtlas.Command.Project
import SchemaAtlas.Overview.Record
import SchemaAtlas.Overview.Tables

/-!
# Browsing a schema

`browse` shows the models of a schema by category, or one model in detail, as a table or as JSON.
-/

namespace SchemaAtlas.Command

variable {m : Type → Type} [Monad m] [Host m]

/-- What can be asked of `browse`. -/
structure BrowseOptions where
  /-- The model to show; all if none is given. -/
  model : Option String := none
  schemaPath : Option String := none
  asJson : Bool := false

/-- The command line of `browse`. -/
def browseForm : CommandForm where
  name := "show"
  summary := "Show models by category, or one model in detail."
  options := [schemaOption, jsonOption]
  argument := some ⟨"MODEL", .anything⟩

/-- The options that a command line gives. -/
def BrowseOptions.ofArguments (arguments : Arguments) : BrowseOptions where
  model := arguments.words.head?
  schemaPath := arguments.value? schemaOption.name
  asJson := arguments.isSet jsonOption.name

/-- What is shown of all models. -/
def overviewItems (o : Overview) : List ConsoleItem :=
  [.table o.table, .line o.counts]

/-- What is shown of one model. -/
def sheetItems (sheet : ModelSheet) : List ConsoleItem :=
  .table sheet.table :: sheet.attributes.map fun raw => .line ("  " ++ styled "dim" raw)

/-- Shows the models of a schema, or one of them. -/
def browse (options : BrowseOptions) (verbose : Bool) : Program m Nat := do
  let project ← openProject verbose options.schemaPath
  let o := Overview.ofSchema project.schema
  match options.model with
  | none =>
    if options.asJson then
      printJson (m := m) (← Program.orBlankValue o.toData)
    else
      (overviewItems o).forM Program.present
  | some name =>
    match o.find? name with
    | none => throw (.failed ("Model not found: " ++ name))
    | some sheet =>
      if options.asJson then
        printJson (m := m) sheet.toData
      else
        (sheetItems sheet).forM Program.present
  return 0

end SchemaAtlas.Command

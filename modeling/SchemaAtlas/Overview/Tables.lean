import SchemaAtlas.Console
import SchemaAtlas.Overview.Basic
import SchemaAtlas.Text.Summary

/-!
# The overview on the console

`Overview.table` lists the models by category, and `ModelSheet.table` the fields of one model.
-/

namespace SchemaAtlas

open Text

/-- The rows of one category, of which only the first shows its title. -/
def groupRows (group : CategoryGroup ModelSheet) : List (List String) :=
  let row := fun (title : String) (sheet : ModelSheet) =>
    [title, sheet.name, toString sheet.scalarCount, toString sheet.relationCount,
      toString sheet.line]
  match group.members with
  | [] => []
  | first :: rest =>
    row (group.category.icon ++ " " ++ group.category.label) first :: rest.map (row "")

/-- The models by category. -/
def Overview.table (o : Overview) : ConsoleTable where
  title := "Models by category"
  columns := ["Category", "Model", "Fields", "Relations", "Line"]
  rows := o.groups.flatMap groupRows

/-- The style of the types of a kind. -/
def FieldKind.style : FieldKind → String
  | .scalar => "white"
  | .enumeration => "magenta"
  | .relation => "cyan"

/-- The row of a field. -/
def FieldEntry.row (f : FieldEntry) : List String :=
  [f.name, "[" ++ f.kind.style ++ "]" ++ f.typeLabel ++ "[/]", if f.isRequired then "✓" else "",
    f.key, f.initial, f.relation, shortened noteWidth usualMark f.notes]

/-- The name of a model with its category and the name of its table. -/
def ModelSheet.title (sheet : ModelSheet) : String :=
  sheet.name ++ " (" ++ sheet.category.label ++ ")" ++
    match sheet.mappedName with
    | none | some "" => ""
    | some name => " → " ++ name

/-- The fields of a model. -/
def ModelSheet.table (sheet : ModelSheet) : ConsoleTable where
  title := sheet.title
  columns := ["Field", "Type", "Req", "Key", "Default", "Relation", "Notes"]
  rows := sheet.fields.map FieldEntry.row

/-- The models and enumerations, counted. -/
def Overview.counts (o : Overview) : String :=
  counted o.models.length "model" ++ ", " ++ counted o.enumerations.length "enum"

end SchemaAtlas

import SchemaAtlas.Lint.Record
import SchemaAtlas.Overview.Basic

/-!
# The overview as data

The overview of a schema and the sheet of a model as values that can be written as JSON.
-/

namespace SchemaAtlas

/-- A field as a value. -/
def FieldEntry.toData (f : FieldEntry) : Data :=
  .record [("name", .text f.name), ("type", .text f.typeLabel), ("kind", .text f.kind.name),
    ("required", .bool f.isRequired), ("key", .text f.key), ("default", .text f.initial),
    ("relation", .text f.relation), ("notes", .text f.notes)]

/-- The entries of a model. -/
def ModelSheet.entries (sheet : ModelSheet) : Keyed Data :=
  [("name", .text sheet.name), ("category", .text sheet.category.label),
    ("mapped_name", .ofText? sheet.mappedName), ("line", .int sheet.line),
    ("fields", .list (sheet.fields.map FieldEntry.toData)),
    ("attributes", .list (sheet.attributes.map .text))]

/-- A model as a value. -/
def ModelSheet.toData (sheet : ModelSheet) : Data :=
  .record sheet.entries

/-- The names of a category and of its models. -/
def groupData (group : CategoryGroup ModelSheet) : Data :=
  .record [("label", .text group.category.label),
    ("models", .list (group.members.map fun sheet => .text sheet.name))]

/-- The name of an enumeration with the names of its values. -/
def Enumeration.entry (e : Enumeration) : Except ValueFault (String × Data) := do
  return (e.name, .list ((← e.members).map .text))

/-- An overview as a value. -/
def Overview.toData (o : Overview) : Except ValueFault Data := do
  let enumerations ← o.enumerations.mapM Enumeration.entry
  return .record [("categories", .list (o.groups.map groupData)),
    ("enums", .record (Keyed.ofList enumerations))]

end SchemaAtlas

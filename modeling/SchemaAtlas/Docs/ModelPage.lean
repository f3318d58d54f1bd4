import SchemaAtlas.Docs.Diagram
import SchemaAtlas.Docs.Markdown
import SchemaAtlas.Settings.Basic

/-!
# The page of a model

`modelPage` describes one model: its fields and relations as tables, the relation fields of other
models that refer to it, its indexes and uniqueness constraints, and, when any relation touches it,
the diagram `entityDiagram` of the model and its neighbours.
-/

namespace SchemaAtlas.Docs

open Text Markdown

/-- The link to the page of a model, from another such page. -/
def pageLink (name : String) : String :=
  link name ("./" ++ name ++ ".md")

/-- The text of an optional value, empty if there is none. -/
def textOrEmpty : Option String → String
  | some s => s
  | none => ""

/-- The part with a label in front of it, unless it is empty. -/
def labelled (label : String) (part : String) : String :=
  if part.isEmpty then "" else label ++ part

/-- The native type and the comment of a field. -/
def fieldNotes (f : Field) : String :=
  joined ". " ([labelled "DB: " (textOrEmpty f.nativeType), textOrEmpty f.comment].filter
    fun note => !note.isEmpty)

/-- The row of a field that holds a value. -/
def fieldRow (f : Field) : List String :=
  let key := if f.isId then "🔑 PK" else if f.isUnique then "✅" else ""
  let initial := textOrEmpty f.defaultExpr
  [code f.name, code f.typeLabel, if f.isOptional then "❌" else "✅", key,
    if initial.isEmpty then "" else code initial, fieldNotes f]

/-- The table of the fields that hold values. -/
def fieldTable (m : Model) : Table where
  header := ["Field", "Type", "Required", "Unique", "Default", "Notes"]
  rows := m.scalarFields.map fieldRow

/-- The names in a list, or a dash if there are none. -/
def namesOrDash (names : List String) : String :=
  if names.isEmpty then "-" else joined ", " names

/-- The row of a relation field. -/
def relationRow (f : Field) : List String :=
  let action := textOrEmpty (f.relation.bind Relation.onDelete)
  [code f.name, pageLink f.baseType, f.multiplicity.label, namesOrDash f.foreignKeys,
    namesOrDash f.references, if action.isEmpty then "-" else action]

/-- The table of the relation fields. -/
def relationTable (m : Model) : Table where
  header := ["Field", "Type", "Cardinality", "FK Fields", "References", "On Delete"]
  rows := m.relationFields.map relationRow

/-- The row of a relation field of another model. -/
def referenceRow (reference : Model × Field) : List String :=
  [pageLink reference.1.name, code reference.2.name,
    if reference.2.isList then "Has many" else "Has one"]

/-- The table of the relation fields that refer to a model. -/
def referenceTable (references : List (Model × Field)) : Table where
  header := ["Model", "Field", "Cardinality"]
  rows := references.map referenceRow

/-- The fields of an index or constraint, or the attribute as written if it names none. -/
def attributeItem (a : BlockAttribute) : String :=
  let fields := joined ", " a.leadFields
  "- " ++ code (if fields.isEmpty then a.raw else fields)

/-! ### The diagram -/

/-- The entity of a model on its own page, with as many fields as the limit allows. -/
def pageEntity (settings : DocSettings) (m : Model) : Entity :=
  let limit := settings.entityFieldLimit.val
  let drawn := (m.scalarFields.take limit).map fun f => EntityAttribute.ofField f f.keyMarker
  ⟨m.name, if limit < m.scalarFields.length then drawn ++ [.moreFields] else drawn⟩

/-- The names of the models that a relation connects with `m`, those that it refers to first. -/
def neighbourNames (s : Schema) (m : Model) : List String :=
  let targets := (m.relationFields.map Field.baseType).filter fun name => name != m.name
  let sources := (s.referencesTo m.name).map fun reference => reference.1.name
  (targets ++ sources).eraseDups

/-- The diagram of a model and its neighbours, with the edges that start at the model. -/
def entityDiagram (settings : DocSettings) (s : Schema) (m : Model) : Diagram where
  entities :=
    pageEntity settings m :: ((neighbourNames s m).filterMap s.model?).map Entity.stub
  edges := m.relationFields.map (Edge.ofField m.name)

/-! ### The page -/

/-- A heading with lines below it, set off from what stands above it. -/
def titledSection (title : String) (lines : List String) : List String :=
  if lines.isEmpty then [] else ["", "## " ++ title, ""] ++ lines

/-- A table below a heading, left out if it has no rows. -/
def tableSection (title : String) (t : Table) : List String :=
  titledSection title (if t.rows.isEmpty then [] else t.lines)

/-- The name of the table that a model is stored in. -/
def storageNote (m : Model) : List String :=
  let name := textOrEmpty m.mappedName
  if name.isEmpty then [] else ["> Table name: " ++ code name, ""]

/-- The lines of the page of a model; the last is empty. -/
def modelPageLines (settings : DocSettings) (s : Schema) (m : Model) : List String :=
  let references := s.referencesTo m.name
  let diagram :=
    if m.relationFields.isEmpty && references.isEmpty then [""]
    else titledSection "Entity Diagram" (entityDiagram settings s m).lines
  ["# " ++ m.name, ""] ++ storageNote m ++
    ["**Schema location:** Lines " ++ toString m.line ++ "-" ++ toString m.endLine, "",
      "## Fields", ""] ++ (fieldTable m).lines ++ tableSection "Relations" (relationTable m) ++
    tableSection "Referenced By" (referenceTable references) ++
    titledSection "Indexes" (m.indexes.map attributeItem) ++
    titledSection "Unique Constraints" (m.uniqueConstraints.map attributeItem) ++ diagram

/-- The page of a model. -/
def modelPage (settings : DocSettings) (s : Schema) (m : Model) : String :=
  joined "\n" (modelPageLines settings s m)

end SchemaAtlas.Docs

import SchemaAtlas.Docs.Diagram
import SchemaAtlas.Docs.IndexPage

/-!
# The diagram page

`diagramPage` draws one diagram for every category with the relations inside it; a category with too
many models is listed instead.  Relations that leave their category are rows of a table at the end,
so that every relation is shown exactly once.
-/

namespace SchemaAtlas.Docs

open Text Markdown

/-- The fields that are drawn for a model besides its primary key. -/
def overviewFields (settings : DocSettings) (m : Model) : List Field :=
  (m.scalarFields.filter fun f =>
    !f.isId && (f.isUnique || settings.erdKeyFields.contains f.name)).take
      settings.erdKeyFieldLimit.val

/-- The entity of a model in the diagram of its category. -/
def overviewEntity (settings : DocSettings) (m : Model) : Entity :=
  ⟨m.name, m.keyAttribute ++ (overviewFields settings m).map fun f => .ofField f ""⟩

/-- The row of an edge. -/
def edgeRow (e : Edge) : List String :=
  [code e.source, code e.fieldName, code e.target, e.cardinality.label]

/-- A table of edges. -/
def edgeTable (edges : List Edge) : Table where
  header := ["From", "Field", "To", "Cardinality"]
  rows := edges.map edgeRow

/-- The part of the diagram page for one category. -/
structure DiagramSection where
  group : CategoryGroup Model
  /-- Edges between models of the category. -/
  inside : List Edge
  /-- Edges from a model of the category to a name outside it. -/
  leaving : List Edge

/-- The part for one category, where `edges` are the edges of the whole schema. -/
def DiagramSection.of (edges : List Edge) (group : CategoryGroup Model) : DiagramSection :=
  let names := group.members.map Model.name
  let own := edges.filter fun e => names.contains e.source
  ⟨group, own.filter fun e => names.contains e.target, own.filter fun e => !names.contains e.target⟩

/-- All parts of the diagram page. -/
def diagramSections (s : Schema) : List DiagramSection :=
  (modelGroups s.models).map (DiagramSection.of s.edges)

/-- The category is small enough to be drawn. -/
def DiagramSection.isDrawn (settings : DocSettings) (part : DiagramSection) : Bool :=
  part.group.members.length ≤ settings.erdMaxModels.val

/-- The diagram of a category. -/
def DiagramSection.diagram (settings : DocSettings) (part : DiagramSection) : Diagram :=
  ⟨part.group.members.map (overviewEntity settings), part.inside⟩

/-- The lines for a category that is listed instead of drawn. -/
def DiagramSection.listing (part : DiagramSection) : List String :=
  let models := part.group.members
  ["> Too many models (" ++ toString models.length ++
      ") for a single diagram. See individual model pages.", "",
    "Models: " ++ joined ", " (models.map fun m => code m.name), ""] ++
    if part.inside.isEmpty then [] else (edgeTable part.inside).lines ++ [""]

/-- The lines for a category. -/
def DiagramSection.lines (settings : DocSettings) (part : DiagramSection) : List String :=
  ["## " ++ categoryTitle part.group.category, ""] ++
    if part.isDrawn settings then (part.diagram settings).lines else part.listing

/-- The lines for the edges that leave their category. -/
def leavingLines (edges : List Edge) : List String :=
  if edges.isEmpty then []
  else ["## Cross-Category Relations", ""] ++ (edgeTable edges).lines ++ [""]

/-- The diagram page. -/
def diagramPage (settings : DocSettings) (s : Schema) : String :=
  let sections := diagramSections s
  joined "\n" (["# ERD Overview", "", "> High-level entity relationship diagram by category", ""] ++
    sections.flatMap (DiagramSection.lines settings) ++
    leavingLines (sections.flatMap DiagramSection.leaving))

end SchemaAtlas.Docs

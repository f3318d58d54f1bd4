import SchemaAtlas.Schema.Basic
import SchemaAtlas.Text.Lower

/-!
# Entity diagrams

A `Diagram` draws entities with their attributes and the edges between them.  `Diagram.lines` writes
it in the language of the diagram tool: first the entities in order, then the edges, each with a
connector that shows its cardinality.
-/

namespace SchemaAtlas

open Text

/-- An attribute that is drawn in an entity, perhaps marked as a key. -/
structure EntityAttribute where
  typeName : String
  name : String
  marker : String := ""
  deriving DecidableEq

/-- An entity and the attributes that are drawn in it. -/
structure Entity where
  name : String
  attributes : List EntityAttribute := []
  deriving DecidableEq

/-- A diagram of entities and edges. -/
structure Diagram where
  entities : List Entity := []
  edges : List Edge := []
  deriving DecidableEq

/-- The sign between the ends of an edge. -/
def Cardinality.connector : Cardinality → String
  | .oneToMany => "||--o\x7b"
  | .manyToOneOptional => "\x7do--||"
  | .manyToOne => "\x7d|--||"

/-- The attribute that a field is drawn as. -/
def EntityAttribute.ofField (f : Field) (marker : String) : EntityAttribute :=
  ⟨lower f.baseType, f.name, marker⟩

/-- The attribute that stands for fields left out. -/
def EntityAttribute.moreFields : EntityAttribute where
  typeName := "string"
  name := "_more_fields"

/-- The line of an attribute. -/
def EntityAttribute.line (a : EntityAttribute) : String :=
  "        " ++ a.typeName ++ " " ++ a.name ++ (if a.marker.isEmpty then "" else " " ++ a.marker)

/-- The marker of a field on the page of its model. -/
def Field.keyMarker (f : Field) : String :=
  if f.isId then "PK" else if f.isUnique then "UK" else ""

/-- The attribute of the primary key, if there is one. -/
def Model.keyAttribute (m : Model) : List EntityAttribute :=
  match m.primaryKey? with
  | some key => [.ofField key "PK"]
  | none => []

/-- The entity of a model with nothing but its primary key. -/
def Entity.stub (m : Model) : Entity :=
  ⟨m.name, m.keyAttribute⟩

/-- The lines of an entity. -/
def Entity.lines (e : Entity) : List String :=
  ["    " ++ e.name ++ " \x7b"] ++ e.attributes.map EntityAttribute.line ++ ["    \x7d"]

/-- The line of an edge. -/
def Edge.line (e : Edge) : String :=
  "    " ++ e.source ++ " " ++ e.cardinality.connector ++ " " ++ e.target ++ " : \"" ++
    e.fieldName ++ "\""

/-- The lines of a diagram, inside a fenced block; the last is empty. -/
def Diagram.lines (d : Diagram) : List String :=
  ["```mermaid", "erDiagram"] ++ d.entities.flatMap Entity.lines ++ d.edges.map Edge.line ++
    ["```", ""]

end SchemaAtlas

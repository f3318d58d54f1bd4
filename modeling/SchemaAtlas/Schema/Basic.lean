import SchemaAtlas.Text.Blank
import SchemaAtlas.Text.Search
import SchemaAtlas.Text.Separated

/-!
# Data model schemas

A `Schema` lists the models and enumerations of a data model in declaration order.  Models name each
other; `Schema.model?` resolves a name, and the first declaration of a name wins.  A `Field` is a
relation when its base type is neither a built-in type nor an enumeration, and every relation field
is an `Edge` from its model to the model that it names.
-/

namespace SchemaAtlas

/-- Types that every schema has. -/
def builtinTypes : List String :=
  ["String", "Int", "Float", "Boolean", "DateTime", "Json", "BigInt", "Decimal", "Bytes"]

/-- What the base type of a field stands for. -/
inductive FieldKind where
  | scalar
  | enumeration
  | relation
  deriving DecidableEq, Inhabited

/-- How many records of the two models a relation field connects. -/
inductive Cardinality where
  | oneToMany
  | manyToOneOptional
  | manyToOne
  deriving DecidableEq

/-- The written form of a cardinality. -/
def Cardinality.label : Cardinality → String
  | .oneToMany => "One-to-Many"
  | .manyToOneOptional => "Many-to-One (optional)"
  | .manyToOne => "Many-to-One"

/-- An enumeration with its value lines as written. -/
structure Enumeration where
  name : String
  values : List String := []
  deriving DecidableEq

/-- The clauses of a relation attribute. -/
structure Relation where
  name : Option String := none
  /-- Foreign-key fields on the owning model. -/
  fields : List String := []
  /-- Fields of the target model that they refer to. -/
  references : List String := []
  onDelete : Option String := none
  onUpdate : Option String := none
  deriving DecidableEq

/-- One field of a model. -/
structure Field where
  name : String
  baseType : String
  kind : FieldKind
  isList : Bool := false
  isOptional : Bool := false
  isId : Bool := false
  isUnique : Bool := false
  defaultExpr : Option String := none
  relation : Option Relation := none
  nativeType : Option String := none
  comment : Option String := none
  /-- Line number, counted from 1. -/
  line : Nat := 0
  deriving DecidableEq

/-- An index or a uniqueness constraint over some fields of a model. -/
structure BlockAttribute where
  leadFields : List String
  /-- The attribute as written. -/
  raw : String
  deriving DecidableEq

/-- One model. -/
structure Model where
  name : String
  fields : List Field := []
  mappedName : Option String := none
  indexes : List BlockAttribute := []
  uniqueConstraints : List BlockAttribute := []
  comments : List String := []
  /-- Number of the header line, counted from 1. -/
  line : Nat := 0
  /-- Number of the closing line. -/
  endLine : Nat := 0
  deriving DecidableEq

/-- The models and enumerations of a data model, in declaration order. -/
structure Schema where
  models : List Model := []
  enumerations : List Enumeration := []
  deriving DecidableEq

/-- The kind of a field with the given base type.  Built-in types take precedence, and letter case
matters. -/
def FieldKind.ofType (enums : List String) (baseType : String) : FieldKind :=
  if builtinTypes.contains baseType then .scalar
  else if enums.contains baseType then .enumeration
  else .relation

/-- The foreign keys and what they refer to, for instance `companyId → id`; nothing without foreign
keys. -/
def Relation.summary (r : Relation) : String :=
  if r.fields.isEmpty then ""
  else Text.joined ", " r.fields ++ " → " ++ Text.joined ", " r.references

/-- A value line on which there is no word. -/
inductive ValueFault where
  | blankValue
  deriving DecidableEq

/-- The word that a value line starts with. -/
def valueName (value : String) : Except ValueFault String :=
  match Text.firstWord? value.toList with
  | some word => .ok (.ofList word)
  | none => .error .blankValue

/-- The names of the values, without their own attributes.  Block attributes are no values. -/
def Enumeration.members (e : Enumeration) : Except ValueFault (List String) :=
  (e.values.filter fun value => !Text.startsWith "@@" value.toList).mapM valueName

namespace Field

/-- The field refers to another model. -/
def isRelation (f : Field) : Bool :=
  f.kind == .relation

/-- The type of the field is an enumeration. -/
def isEnumeration (f : Field) : Bool :=
  f.kind == .enumeration

/-- The declared type with its markers, such as `Post[]` or `String?`. -/
def typeLabel (f : Field) : String :=
  f.baseType ++ (if f.isList then "[]" else "") ++ (if f.isOptional then "?" else "")

/-- The foreign-key fields that the relation attribute names. -/
def foreignKeys (f : Field) : List String :=
  match f.relation with
  | some r => r.fields
  | none => []

/-- The fields of the target that the relation attribute names. -/
def references (f : Field) : List String :=
  match f.relation with
  | some r => r.references
  | none => []

/-- The cardinality that the list and optional markers express. -/
def multiplicity (f : Field) : Cardinality :=
  if f.isList then .oneToMany
  else if f.isOptional then .manyToOneOptional
  else .manyToOne

/-- The cardinality of a relation field. -/
def cardinality? (f : Field) : Option Cardinality :=
  if f.isRelation then some f.multiplicity else none

end Field

/-- The field that comes first in the attribute. -/
def BlockAttribute.leadField? (a : BlockAttribute) : Option String :=
  a.leadFields.head?

namespace Model

/-- The fields that hold values, enumerations included. -/
def scalarFields (m : Model) : List Field :=
  m.fields.filter fun f => !f.isRelation

/-- The fields that refer to other models. -/
def relationFields (m : Model) : List Field :=
  m.fields.filter Field.isRelation

/-- The first field of the given name. -/
def field? (m : Model) (name : String) : Option Field :=
  m.fields.find? fun f => f.name == name

/-- Some field has the given name. -/
def hasField (m : Model) (name : String) : Bool :=
  m.fields.any fun f => f.name == name

/-- The first field that is marked as identifier. -/
def primaryKey? (m : Model) : Option Field :=
  m.fields.find? Field.isId

/-- Indexes and uniqueness constraints, indexes first. -/
def blockAttributes (m : Model) : List BlockAttribute :=
  m.indexes ++ m.uniqueConstraints

end Model

/-- A relation field seen from its model. -/
structure Edge where
  source : String
  fieldName : String
  target : String
  cardinality : Cardinality
  deriving DecidableEq

/-- The edge of a relation field of the model named `source`. -/
def Edge.ofField (source : String) (f : Field) : Edge :=
  ⟨source, f.name, f.baseType, f.multiplicity⟩

namespace Schema

/-- Names of the enumerations, in declaration order. -/
def enumerationNames (s : Schema) : List String :=
  s.enumerations.map Enumeration.name

/-- Names of the models, in the order of their first declaration. -/
def modelNames (s : Schema) : List String :=
  (s.models.map Model.name).eraseDups

/-- The first model of the given name. -/
def model? (s : Schema) (name : String) : Option Model :=
  s.models.find? fun m => m.name == name

/-- The first enumeration of the given name. -/
def enumeration? (s : Schema) (name : String) : Option Enumeration :=
  s.enumerations.find? fun e => e.name == name

/-- Every relation field as an edge, in declaration order. -/
def edges (s : Schema) : List Edge :=
  s.models.flatMap fun m => m.relationFields.map (Edge.ofField m.name)

/-- The relation fields of other models whose base type is `name`, with their models. -/
def referencesTo (s : Schema) (name : String) : List (Model × Field) :=
  s.models.flatMap fun m =>
    if m.name == name then []
    else (m.relationFields.filter fun f => f.baseType == name).map fun f => (m, f)

end Schema

theorem Field.cardinality?_of_isRelation {f : Field} (h : f.isRelation) :
    f.cardinality? = some f.multiplicity := by
  simp [cardinality?, h]

theorem Field.foreignKeys_eq_elim (f : Field) :
    f.foreignKeys = f.relation.elim [] Relation.fields := by
  unfold foreignKeys
  cases f.relation <;> rfl

theorem Field.references_eq_elim (f : Field) :
    f.references = f.relation.elim [] Relation.references := by
  unfold references
  cases f.relation <;> rfl

namespace Schema

variable {s : Schema} {name : String}

theorem mem_models_of_model? {m : Model} (h : s.model? name = some m) :
    m ∈ s.models ∧ m.name = name :=
  ⟨List.mem_of_find?_eq_some h, by simpa using List.find?_some h⟩

theorem model?_isSome : (s.model? name).isSome ↔ ∃ m ∈ s.models, m.name = name := by
  simp [model?]

theorem mem_referencesTo {m : Model} {f : Field} :
    (m, f) ∈ s.referencesTo name ↔
      m ∈ s.models ∧ m.name ≠ name ∧ f ∈ m.relationFields ∧ f.baseType = name := by
  simp only [referencesTo, beq_iff_eq, List.mem_flatMap, List.mem_ite_nil_left, List.mem_map,
    List.mem_filter, Prod.mk.injEq]
  constructor
  · rintro ⟨m, hm, hne, f, ⟨hf, htype⟩, rfl, rfl⟩
    exact ⟨hm, hne, hf, htype⟩
  · rintro ⟨hm, hne, hf, htype⟩
    exact ⟨m, hm, hne, f, ⟨hf, htype⟩, rfl, rfl⟩

end Schema

end SchemaAtlas

import SchemaAtlas.Schema.Basic
import SchemaAtlas.Settings.Basic

/-!
# Record types of a schema

For every model, `ModelTypes` holds the shapes of its records: the stored values, what is needed to
create a record, what may change in one, and the records that it is connected with.  The type of a
field is resolved by `TypeRef.resolve`; a name that stands for nothing is kept and reported by
`TypeBundle.unresolved`.
-/

namespace SchemaAtlas

/-- Where a type comes from. -/
inductive TypeOrigin where
  | primitive
  | enumeration
  | model
  | unknown
  deriving DecidableEq, Inhabited

/-- A type by its name. -/
structure TypeRef where
  name : String
  origin : TypeOrigin
  deriving DecidableEq

/-- The built-in types and the types that hold their values. -/
def primitiveTypes : List (String × String) :=
  [("String", "string"), ("Int", "number"), ("Float", "number"), ("Boolean", "boolean"),
    ("DateTime", "Date"), ("Json", "JsonValue"), ("BigInt", "bigint"), ("Decimal", "Decimal"),
    ("Bytes", "Buffer")]

/-- What a type name of the schema stands for. -/
def TypeRef.resolve (s : Schema) (name : String) : TypeRef :=
  match primitiveTypes.find? fun t => t.1 == name with
  | some t => ⟨t.2, .primitive⟩
  | none =>
    if (s.enumeration? name).isSome then ⟨name, .enumeration⟩
    else if (s.model? name).isSome then ⟨name, .model⟩
    else ⟨name, .unknown⟩

/-- One member of a record type. -/
structure TypeMember where
  name : String
  type : TypeRef
  isList : Bool := false
  isNullable : Bool := false
  /-- The member may be left out. -/
  isOptional : Bool := false
  deriving DecidableEq

/-- The record types of one model. -/
structure ModelTypes where
  name : String
  /-- The stored values. -/
  scalar : List TypeMember
  /-- What is given to create a record. -/
  createInput : List TypeMember
  /-- What is given to change a record. -/
  updateInput : List TypeMember
  /-- The connected records. -/
  withRelations : List TypeMember
  deriving DecidableEq

/-- The record types of a schema. -/
structure TypeBundle where
  enumerations : List Enumeration
  models : List ModelTypes
  deriving DecidableEq

/-- The database fills the field in by itself. -/
def Field.isGenerated (settings : TypeSettings) (f : Field) : Bool :=
  f.isId && f.defaultExpr.any settings.autoIdDefaults.contains ||
    settings.timestampFields.contains f.name

/-- A new record needs no value for the field. -/
def Field.isOptionalAtCreation (f : Field) : Bool :=
  f.isOptional || f.defaultExpr.isSome || f.isList

/-- The member that holds the values of a field. -/
def TypeMember.ofField (s : Schema) (isOptional : Bool) (f : Field) : TypeMember where
  name := f.name
  type := .resolve s f.baseType
  isList := f.isList
  isNullable := f.isOptional
  isOptional := isOptional

/-- The fields that are given from outside. -/
def Model.writableFields (settings : TypeSettings) (m : Model) : List Field :=
  m.scalarFields.filter fun f => !f.isGenerated settings

/-- The record types of a model. -/
def ModelTypes.ofModel (settings : TypeSettings) (s : Schema) (m : Model) : ModelTypes where
  name := m.name
  scalar := m.scalarFields.map (.ofField s false)
  createInput := (m.writableFields settings).map fun f => .ofField s f.isOptionalAtCreation f
  updateInput := (m.writableFields settings).map (.ofField s true)
  withRelations := m.relationFields.map (.ofField s false)

/-- The record types of a schema. -/
def TypeBundle.ofSchema (settings : TypeSettings) (s : Schema) : TypeBundle where
  enumerations := s.enumerations
  models := s.models.map (.ofModel settings s)

/-- A member whose type stands for nothing. -/
structure UnresolvedType where
  model : String
  field : String
  typeName : String
  deriving DecidableEq

/-- The members of a model whose types stand for nothing. -/
def ModelTypes.unresolved (types : ModelTypes) : List UnresolvedType :=
  ((types.scalar ++ types.withRelations).filter fun member => member.type.origin == .unknown).map
    fun member => ⟨types.name, member.name, member.type.name⟩

/-- The members of all models whose types stand for nothing. -/
def TypeBundle.unresolved (bundle : TypeBundle) : List UnresolvedType :=
  bundle.models.flatMap ModelTypes.unresolved

theorem primitiveTypes_map_fst : primitiveTypes.map Prod.fst = builtinTypes := rfl

end SchemaAtlas

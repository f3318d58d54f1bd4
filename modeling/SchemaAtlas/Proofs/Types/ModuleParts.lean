import SchemaAtlas.Proofs.Types.Resolution
import SchemaAtlas.Types.TypeScript

/-!
# The declarations of a module

A module is made of parts, `TypeBundle.moduleParts`: the union of each enumeration, the four records
of each model, the interfaces that every client needs, and remarks in between.  The lines of the
module are the lines of its parts (`moduleLines_eq`).

Main statement: every type name in a record is that of a built-in type or is declared in the same
module, or else it is reported as unresolved for this model and this member
(`module_typeNames_resolve`).
-/

namespace SchemaAtlas

open Text

/-! ### Parts -/

/-- The four record types of a model. -/
inductive RecordShape where
  | scalar
  | createInput
  | updateInput
  | withRelations
  deriving DecidableEq

namespace RecordShape

/-- All shapes, in the order of their declarations. -/
def all : List RecordShape :=
  [scalar, createInput, updateInput, withRelations]

/-- What a record type adds to the name of its model. -/
def suffix : RecordShape → String
  | scalar => "Scalar"
  | createInput => "CreateInput"
  | updateInput => "UpdateInput"
  | withRelations => "WithRelations"

end RecordShape

/-- A member of a record as it is written. -/
structure WrittenMember where
  name : String
  isOptional : Bool
  typeName : String
  isList : Bool
  isNullable : Bool

/-- A member of a record type as it is written: a model stands for its stored values. -/
def WrittenMember.ofMember (member : TypeMember) : WrittenMember where
  name := member.name
  isOptional := member.isOptional
  typeName := member.type.name ++ if member.type.origin == .model then "Scalar" else ""
  isList := member.isList
  isNullable := member.isNullable

/-- The line of a member. -/
def WrittenMember.line (member : WrittenMember) : String :=
  "  " ++ member.name ++ (if member.isOptional then "?" else "") ++ ": " ++
    (member.typeName ++ (if member.isList then "[]" else "") ++
      (if member.isNullable then " | null" else "")) ++ ";"

/-- A part of a module: a declaration, or lines that declare nothing. -/
inductive ModulePart where
  | remark (lines : List String)
  | enumeration (e : Enumeration)
  | record (model : String) (shape : RecordShape) (members : List WrittenMember)
  | interface (name parameters : String) (members : List String)

namespace ModulePart

/-- The type name that a part declares. -/
def exported? : ModulePart → Option String
  | remark _ => none
  | enumeration e => some e.name
  | record model shape _ => some (model ++ shape.suffix)
  | interface name _ _ => some name

/-- The lines of a record.  What a model is connected with comes on top of its stored values. -/
def recordPartLines (model : String) (shape : RecordShape) (members : List WrittenMember) :
    List String :=
  let name := model ++ shape.suffix
  let base := model ++ RecordShape.scalar.suffix
  let block := members.map WrittenMember.line ++ ["\x7d;", ""]
  match shape with
  | .withRelations =>
    if members.isEmpty then ["export type " ++ name ++ " = " ++ base ++ ";", ""]
    else ["export type " ++ name ++ " = " ++ base ++ " & \x7b"] ++ block
  | _ => ["export type " ++ name ++ " = \x7b"] ++ block

/-- The lines of an enumeration with the given values, whose type is one of these values. -/
def enumerationPartLines (name : String) (members : List String) : List String :=
  ["export type " ++ name ++ " = " ++
    (if members.isEmpty then "never"
      else joined " | " (members.map fun member => "'" ++ member ++ "'")) ++ ";", ""]

/-- The lines of a part. -/
def lines : ModulePart → Except ValueFault (List String)
  | remark ls => .ok ls
  | enumeration e => e.members.map (enumerationPartLines e.name)
  | record model shape members => .ok (recordPartLines model shape members)
  | interface name parameters members =>
    .ok (["export interface " ++ name ++ parameters ++ " \x7b"] ++
      members.map (fun member => "  " ++ member ++ ";") ++ ["\x7d", ""])

/-- The lines of some parts. -/
def linesOf (parts : List ModulePart) : Except ValueFault (List String) :=
  (parts.mapM lines).map List.flatten

end ModulePart

open ModulePart

/-- The members of a model in one shape. -/
def ModelTypes.members (types : ModelTypes) : RecordShape → List TypeMember
  | .scalar => types.scalar
  | .createInput => types.createInput
  | .updateInput => types.updateInput
  | .withRelations => types.withRelations

/-- The record of a model in one shape. -/
def ModelTypes.record (types : ModelTypes) (shape : RecordShape) : ModulePart :=
  .record types.name shape ((types.members shape).map .ofMember)

/-- The parts for a model. -/
def ModelTypes.parts (types : ModelTypes) : List ModulePart :=
  .remark (partHeading types.name) :: RecordShape.all.map types.record

/-- The parts that do not depend on the schema. -/
def sharedParts : List ModulePart :=
  [.remark (partHeading "Utility Types"),
    .interface "PaginatedResponse" "<T>"
      ["data: T[]", "total: number", "page: number", "pageSize: number", "totalPages: number"],
    .interface "ApiError" "" ["error: string", "message?: string", "details?: unknown"],
    .interface "BaseListParams" ""
      ["page?: number", "pageSize?: number", "search?: string", "sortBy?: string",
        "sortOrder?: 'asc' | 'desc'"],
    .interface "CompanyScopedWhere" "" ["companyId: number"],
    .interface "ListQueryArgs" "<TWhere = Record<string, unknown>>"
      ["where?: TWhere", "skip?: number", "take?: number",
        "orderBy?: Record<string, 'asc' | 'desc'>"]]

/-- The parts of a module. -/
def TypeBundle.moduleParts (settings : TypeSettings) (bundle : TypeBundle) : List ModulePart :=
  [.remark (moduleHeader settings)] ++
    (if bundle.enumerations.isEmpty then [] else [.remark (partHeading "Enums")]) ++
    bundle.enumerations.map .enumeration ++ bundle.models.flatMap ModelTypes.parts ++ sharedParts

/-! ### The module is made of its parts -/

theorem linesOf_append (parts parts' : List ModulePart) :
    linesOf (parts ++ parts') =
      (linesOf parts).bind fun ls => (linesOf parts').map fun ls' => ls ++ ls' := by
  simp only [linesOf, List.mapM_append]
  cases parts.mapM ModulePart.lines with
  | error fault => rfl
  | ok ls =>
    cases parts'.mapM ModulePart.lines with
    | error fault => rfl
    | ok ls' => exact congrArg Except.ok List.flatten_append

theorem linesOf_enumerations (es : List Enumeration) :
    linesOf (es.map .enumeration) = (es.mapM Enumeration.typeLines).map List.flatten := by
  have hlines : ModulePart.lines ∘ ModulePart.enumeration = Enumeration.typeLines := by
    funext e
    show e.members.map (enumerationPartLines e.name) = e.typeLines
    unfold Enumeration.typeLines
    cases e.members <;> rfl
  rw [linesOf, List.mapM_map, hlines]

theorem map_line_ofMember (members : List TypeMember) :
    (members.map WrittenMember.ofMember).map WrittenMember.line = members.map TypeMember.line :=
  List.map_map

theorem recordPartLines_of_ne (shape : RecordShape) (h : shape ≠ .withRelations) (model : String)
    (members : List TypeMember) :
    recordPartLines model shape (members.map .ofMember) =
      recordLines (model ++ shape.suffix) members := by
  cases shape with
  | withRelations => exact absurd rfl h
  | scalar | createInput | updateInput =>
    rw [recordLines, ← map_line_ofMember, List.append_assoc]
    rfl

theorem recordPartLines_withRelations (types : ModelTypes) :
    recordPartLines types.name .withRelations (types.withRelations.map .ofMember) =
      relationLines types := by
  simp only [recordPartLines, relationLines, map_line_ofMember, List.isEmpty_map]
  rfl

theorem linesOf_parts (types : ModelTypes) : linesOf types.parts = .ok types.lines := by
  have hparts : linesOf types.parts =
      .ok (partHeading types.name :: RecordShape.all.map fun shape =>
        recordPartLines types.name shape ((types.members shape).map .ofMember)).flatten := rfl
  rw [hparts]
  simp only [RecordShape.all, List.map_cons, List.map_nil, ModelTypes.members,
    recordPartLines_of_ne .scalar nofun, recordPartLines_of_ne .createInput nofun,
    recordPartLines_of_ne .updateInput nofun, recordPartLines_withRelations]
  simp [ModelTypes.lines, RecordShape.suffix]

theorem linesOf_models (models : List ModelTypes) :
    linesOf (models.flatMap ModelTypes.parts) = .ok (models.flatMap ModelTypes.lines) := by
  induction models with
  | nil => rfl
  | cons types rest ih =>
    rw [List.flatMap_cons, linesOf_append, linesOf_parts, ih]
    rfl

theorem linesOf_sharedParts : linesOf sharedParts = .ok sharedTypes := by
  decide +kernel

theorem moduleLines_eq (settings : TypeSettings) (bundle : TypeBundle) :
    bundle.moduleLines settings = linesOf (bundle.moduleParts settings) := by
  have hheader : linesOf [.remark (moduleHeader settings)] = .ok (moduleHeader settings) := by
    rw [linesOf, List.mapM_cons, List.mapM_nil]
    exact congrArg Except.ok (List.append_nil _)
  have hheading :
      linesOf (if bundle.enumerations.isEmpty then [] else [.remark (partHeading "Enums")]) =
        .ok (if bundle.enumerations.isEmpty then [] else partHeading "Enums") := by
    split <;> rfl
  unfold TypeBundle.moduleLines TypeBundle.moduleParts
  simp only [linesOf_append, hheader, hheading, linesOf_enumerations, linesOf_models,
    linesOf_sharedParts]
  cases bundle.enumerations.mapM Enumeration.typeLines <;> rfl

/-! ### Type names in records -/

section

variable {s : Schema} {m : Model}

theorem exists_field_of_mem_members {settings : TypeSettings} {shape : RecordShape}
    {member : TypeMember} (h : member ∈ (ModelTypes.ofModel settings s m).members shape) :
    ∃ f ∈ m.scalarFields ++ m.relationFields, ∃ isOptional,
      member = .ofField s isOptional f := by
  have hwritable : ∀ f ∈ m.writableFields settings, f ∈ m.scalarFields :=
    fun _ => List.mem_of_mem_filter
  cases shape with
  | scalar =>
    obtain ⟨f, hf, rfl⟩ := List.mem_map.1 h
    exact ⟨f, List.mem_append_left _ hf, false, rfl⟩
  | createInput =>
    obtain ⟨f, hf, rfl⟩ := List.mem_map.1 h
    exact ⟨f, List.mem_append_left _ (hwritable f hf), f.isOptionalAtCreation, rfl⟩
  | updateInput =>
    obtain ⟨f, hf, rfl⟩ := List.mem_map.1 h
    exact ⟨f, List.mem_append_left _ (hwritable f hf), true, rfl⟩
  | withRelations =>
    obtain ⟨f, hf, rfl⟩ := List.mem_map.1 h
    exact ⟨f, List.mem_append_right _ hf, false, rfl⟩

theorem typeName_ofField (isOptional : Bool) (f : Field) :
    (WrittenMember.ofMember (.ofField s isOptional f)).typeName =
      (TypeRef.resolve s f.baseType).name ++
        if (TypeRef.resolve s f.baseType).origin == .model then "Scalar" else "" :=
  rfl

/-- The written type of a field is built in, an enumeration or the stored values of a model, or else
it is the type as the schema has it and stands for nothing. -/
theorem typeName_ofField_cases (s : Schema) (isOptional : Bool) (f : Field) :
    let typeName := (WrittenMember.ofMember (.ofField s isOptional f)).typeName
    (∃ t ∈ primitiveTypes, typeName = t.2) ∨ (∃ e ∈ s.enumerations, typeName = e.name) ∨
      (∃ m ∈ s.models, typeName = m.name ++ "Scalar") ∨
      (f.isUnresolved s ∧ typeName = f.baseType) := by
  intro typeName
  obtain ⟨t, ht, -, hresolve⟩ | ⟨-, hname, hresolve⟩ | ⟨-, -, ⟨m, hmodel⟩, hresolve⟩ |
    ⟨hbuiltin, hname, hnone, hresolve⟩ := TypeRef.resolve_cases s f.baseType
  · refine .inl ⟨t, ht, ?_⟩
    simp [typeName, typeName_ofField, hresolve]
  · obtain ⟨e, he, hname⟩ := List.mem_map.1 hname
    refine .inr (.inl ⟨e, he, ?_⟩)
    simp [typeName, typeName_ofField, hresolve, hname]
  · have hname : m.name = f.baseType := by simpa using List.find?_some hmodel
    refine .inr (.inr (.inl ⟨m, List.mem_of_find?_eq_some hmodel, ?_⟩))
    simp [typeName, typeName_ofField, hresolve, hname]
  · refine .inr (.inr (.inr ⟨Field.isUnresolved_iff.2 ⟨hbuiltin, hname, hnone⟩, ?_⟩))
    simp [typeName, typeName_ofField, hresolve]

theorem mem_unresolved_of_isUnresolved (settings : TypeSettings) {f : Field} (hm : m ∈ s.models)
    (hf : f ∈ m.scalarFields ++ m.relationFields) (hunresolved : f.isUnresolved s) :
    UnresolvedType.ofField m f ∈ (TypeBundle.ofSchema settings s).unresolved := by
  refine List.mem_flatMap.2 ⟨.ofModel settings s m, List.mem_map_of_mem hm, ?_⟩
  rw [ModelTypes.unresolved_ofModel]
  exact List.mem_map_of_mem (List.mem_filter.2 ⟨hf, hunresolved⟩)

end

theorem RecordShape.mem_all (shape : RecordShape) : shape ∈ all := by
  cases shape <;> decide

theorem enumeration_mem_moduleParts {settings : TypeSettings} {bundle : TypeBundle}
    {e : Enumeration} (he : e ∈ bundle.enumerations) :
    .enumeration e ∈ bundle.moduleParts settings := by
  simp [TypeBundle.moduleParts, he]

/-- The records of a module are those of its models, in all shapes. -/
theorem record_mem_moduleParts_iff {settings : TypeSettings} {bundle : TypeBundle} {model : String}
    {shape : RecordShape} {members : List WrittenMember} :
    .record model shape members ∈ bundle.moduleParts settings ↔
      ∃ types ∈ bundle.models, types.record shape = .record model shape members := by
  have hparts : ∀ types : ModelTypes, .record model shape members ∈ types.parts ↔
      types.record shape = .record model shape members := by
    intro types
    simp only [ModelTypes.parts, List.mem_cons, reduceCtorEq, false_or, List.mem_map]
    constructor
    · rintro ⟨shape', -, heq⟩
      obtain ⟨-, rfl, -⟩ := ModulePart.record.inj heq
      exact heq
    · exact fun heq => ⟨shape, shape.mem_all, heq⟩
  simp [TypeBundle.moduleParts, sharedParts, hparts]

/-- Every type name in a record is built in, or declared in the same module as an enumeration or as
the stored values of a model, or reported as unresolved. -/
theorem module_typeNames_resolve (settings : TypeSettings) (s : Schema) :
    let bundle := TypeBundle.ofSchema settings s
    let parts := bundle.moduleParts settings
    bundle.moduleText settings = (linesOf parts).map (joined "\n") ∧
      ∀ model shape members, .record model shape members ∈ parts → ∀ member ∈ members,
        (∃ t ∈ primitiveTypes, member.typeName = t.2) ∨
        (∃ e, .enumeration e ∈ parts ∧ member.typeName = e.name) ∨
        (∃ other stored, .record other .scalar stored ∈ parts ∧
          member.typeName = other ++ "Scalar") ∨
        ⟨model, member.name, member.typeName⟩ ∈ bundle.unresolved := by
  intro bundle parts
  refine ⟨congrArg (Except.map _) (moduleLines_eq settings bundle), ?_⟩
  intro model shape members hrecord member hmember
  obtain ⟨types, htypes, heq⟩ := record_mem_moduleParts_iff.1 hrecord
  obtain ⟨m, hm, rfl⟩ := List.mem_map.1 htypes
  obtain ⟨rfl, -, rfl⟩ := ModulePart.record.inj heq
  obtain ⟨written, hwritten, rfl⟩ := List.mem_map.1 hmember
  obtain ⟨f, hf, isOptional, rfl⟩ := exists_field_of_mem_members hwritten
  obtain hbuiltin | ⟨e, he, hname⟩ | ⟨other, hother, hname⟩ | ⟨hunresolved, hname⟩ :=
    typeName_ofField_cases s isOptional f
  · exact .inl hbuiltin
  · exact .inr (.inl ⟨e, enumeration_mem_moduleParts he, hname⟩)
  · have hstored : (ModelTypes.ofModel settings s other).record .scalar ∈ parts :=
      record_mem_moduleParts_iff.2 ⟨_, List.mem_map_of_mem hother, rfl⟩
    exact .inr (.inr (.inl ⟨other.name, _, hstored, hname⟩))
  · refine .inr (.inr (.inr ?_))
    rw [hname]
    exact mem_unresolved_of_isUnresolved settings hm hf hunresolved

end SchemaAtlas

import Mathlib.Data.List.Forall2
import SchemaAtlas.Types.Basic

/-!
# Members of record shapes

`ModelTypes.Places` says how the four shapes of a model belong together.  Every field is paired with
one member, and each shape is a selection of these pairs: the stored values and the connected records
share out the fields by their kind, and the two shapes that take input hold the stored values that the
database does not fill in.  What differs between shapes is only whether a member may be left out.

Main statement: the shapes of every model of a schema place its fields in this way
(`forall₂_places`).
-/

namespace SchemaAtlas

/-! ### Fields and their members -/

namespace Field

/-- The field is an identifier with a default that makes identifiers, or a timestamp. -/
def IsFilledIn (settings : TypeSettings) (f : Field) : Prop :=
  f.isId ∧ (∃ d ∈ settings.autoIdDefaults, f.defaultExpr = some d) ∨
    f.name ∈ settings.timestampFields

/-- The field holds a value that is given from outside. -/
def IsGiven (settings : TypeSettings) (f : Field) : Prop :=
  f.kind ≠ .relation ∧ ¬ f.IsFilledIn settings

/-- A new record has to have a value for the field. -/
def IsDemanded (f : Field) : Prop :=
  f.defaultExpr = none ∧ ¬ f.isOptional ∧ ¬ f.isList

instance (settings : TypeSettings) : DecidablePred (IsFilledIn settings) := fun _ =>
  inferInstanceAs (Decidable (_ ∨ _))

instance (settings : TypeSettings) : DecidablePred (IsGiven settings) := fun _ =>
  inferInstanceAs (Decidable (_ ∧ _))

theorem isGenerated_iff (settings : TypeSettings) (f : Field) :
    f.isGenerated settings ↔ f.IsFilledIn settings := by
  have hdefault : f.defaultExpr.any settings.autoIdDefaults.contains ↔
      ∃ d ∈ settings.autoIdDefaults, f.defaultExpr = some d := by
    cases f.defaultExpr <;> simp
  unfold isGenerated IsFilledIn
  rw [Bool.or_eq_true, Bool.and_eq_true, hdefault, List.contains_iff_mem]

theorem isOptionalAtCreation_eq_false_iff (f : Field) :
    f.isOptionalAtCreation = false ↔ f.IsDemanded := by
  unfold isOptionalAtCreation IsDemanded
  cases f.defaultExpr <;> simp

end Field

namespace TypeMember

/-- The member holds the values of the field, whether or not it may be left out. -/
structure Holds (s : Schema) (member : TypeMember) (f : Field) : Prop where
  name : member.name = f.name
  type : member.type = .resolve s f.baseType
  isList : member.isList = f.isList
  isNullable : member.isNullable = f.isOptional

/-- The same member, which may be left out. -/
def omittable (member : TypeMember) : TypeMember :=
  { member with isOptional := true }

end TypeMember

/-! ### The shapes of a model -/

/-- Every field of the model has one member, and the shapes hold these members, up to whether they may
be left out. -/
structure ModelTypes.Places (settings : TypeSettings) (s : Schema) (m : Model) (types : ModelTypes)
    (placed : List (Field × TypeMember)) : Prop where
  name : types.name = m.name
  fields : placed.map Prod.fst = m.fields
  holds : ∀ p ∈ placed, p.2.Holds s p.1
  scalar : types.scalar = (placed.filter fun p => p.1.kind ≠ .relation).map Prod.snd
  withRelations : types.withRelations = (placed.filter fun p => p.1.kind = .relation).map Prod.snd
  updateInput : types.updateInput =
    (placed.filter fun p => p.1.IsGiven settings).map fun p => p.2.omittable
  createInput : types.createInput.map TypeMember.omittable = types.updateInput
  sameNames : types.createInput.map TypeMember.name = types.updateInput.map TypeMember.name
  demanded : List.Forall₂ (fun p member => member.isOptional = false ↔ p.1.IsDemanded)
    (placed.filter fun p => p.1.IsGiven settings) types.createInput

section

variable (settings : TypeSettings) (s : Schema) (m : Model)

theorem Model.scalarFields_eq : m.scalarFields = m.fields.filter fun f => f.kind ≠ .relation := by
  unfold scalarFields Field.isRelation
  exact List.filter_congr fun f _ => by rw [decide_not, beq_eq_decide]

theorem Model.relationFields_eq :
    m.relationFields = m.fields.filter fun f => f.kind = .relation := by
  unfold relationFields Field.isRelation
  exact List.filter_congr fun f _ => beq_eq_decide _ _

theorem Model.writableFields_eq :
    m.writableFields settings = m.fields.filter fun f => f.IsGiven settings := by
  unfold writableFields
  rw [Model.scalarFields_eq, List.filter_filter]
  refine List.filter_congr fun f _ => ?_
  rw [Bool.eq_iff_iff, Bool.and_eq_true, Bool.not_eq_true', ← Bool.not_eq_true,
    Field.isGenerated_iff, decide_eq_true_iff, decide_eq_true_iff, and_comm]
  rfl

/-- Each field with the member that holds it. -/
def placedMembers : List (Field × TypeMember) :=
  m.fields.map fun f => (f, .ofField s false f)

/-- To select members is to select their fields. -/
theorem filter_placedMembers (keep : Field → Bool) :
    (placedMembers s m).filter (fun p => keep p.1) =
      (m.fields.filter keep).map fun f => (f, .ofField s false f) := by
  unfold placedMembers
  rw [List.filter_map]
  rfl

theorem places_ofModel :
    (ModelTypes.ofModel settings s m).Places settings s m (placedMembers s m) where
  name := rfl
  fields := by
    unfold placedMembers
    rw [List.map_map]
    exact List.map_id _
  holds p hp := by
    obtain ⟨f, -, rfl⟩ := List.mem_map.1 hp
    exact ⟨rfl, rfl, rfl, rfl⟩
  scalar := by
    rw [filter_placedMembers s m fun f => f.kind ≠ .relation, ← m.scalarFields_eq, List.map_map]
    rfl
  withRelations := by
    rw [filter_placedMembers s m fun f => f.kind = .relation, ← m.relationFields_eq, List.map_map]
    rfl
  updateInput := by
    rw [filter_placedMembers s m fun f => f.IsGiven settings, ← m.writableFields_eq, List.map_map]
    rfl
  createInput := by
    unfold ModelTypes.ofModel
    rw [List.map_map]
    rfl
  sameNames := by
    unfold ModelTypes.ofModel
    rw [List.map_map, List.map_map]
    rfl
  demanded := by
    rw [filter_placedMembers s m fun f => f.IsGiven settings, ← m.writableFields_eq,
      ModelTypes.ofModel, List.forall₂_map_left_iff, List.forall₂_map_right_iff, List.forall₂_same]
    exact fun f _ => f.isOptionalAtCreation_eq_false_iff

/-- The shapes of every model place its fields: each field has one member, which all shapes that hold
the field share, up to whether it may be left out. -/
theorem forall₂_places :
    List.Forall₂ (fun m types => ∃ placed, ModelTypes.Places settings s m types placed) s.models
      (TypeBundle.ofSchema settings s).models := by
  unfold TypeBundle.ofSchema
  rw [List.forall₂_map_right_iff, List.forall₂_same]
  exact fun m _ => ⟨placedMembers s m, places_ofModel settings s m⟩

end

end SchemaAtlas

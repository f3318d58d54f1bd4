import SchemaAtlas.Proofs.Types.ModuleParts

/-!
# The names that a module exports

A module exports the names of the enumerations, four names for every model, and the names of the
interfaces that every client needs (`exportedNames_ofSchema`).  The four suffixes of a model's names
never make two models share a name, since none of them ends another one and no interface ends in
one.

Main statement: an exported name is repeated only if a model or an enumeration is, or if an
enumeration has the name of an interface or of a model's record (`nodup_exportedNames_iff`), as may
happen when all declared names differ (`exportedNames_collide`).
-/

namespace SchemaAtlas

open Text ModulePart

/-- The type names that a module exports, in order. -/
def TypeBundle.exportedNames (settings : TypeSettings) (bundle : TypeBundle) : List String :=
  (bundle.moduleParts settings).filterMap ModulePart.exported?

/-- The names of a model's records. -/
def recordNames (model : String) : List String :=
  RecordShape.all.map fun shape => model ++ shape.suffix

/-- The names of the interfaces that do not depend on the schema. -/
def interfaceNames : List String :=
  ["PaginatedResponse", "ApiError", "BaseListParams", "CompanyScopedWhere", "ListQueryArgs"]

theorem exportedNames_eq (settings : TypeSettings) (bundle : TypeBundle) :
    bundle.exportedNames settings =
      bundle.enumerations.map Enumeration.name ++
        (bundle.models.map ModelTypes.name).flatMap recordNames ++ interfaceNames := by
  have hheading :
      (if bundle.enumerations.isEmpty then [] else [.remark (partHeading "Enums")]).filterMap
        ModulePart.exported? = [] := by
    split <;> rfl
  have henumerations :
      (bundle.enumerations.map ModulePart.enumeration).filterMap ModulePart.exported? =
        bundle.enumerations.map Enumeration.name := by
    rw [List.filterMap_map, ← List.filterMap_eq_map]
    rfl
  have hmodels : (bundle.models.flatMap ModelTypes.parts).filterMap ModulePart.exported? =
      (bundle.models.map ModelTypes.name).flatMap recordNames := by
    rw [List.filterMap_flatMap, List.flatMap_map]
    rfl
  have hshared : sharedParts.filterMap ModulePart.exported? = interfaceNames := rfl
  simp only [TypeBundle.exportedNames, TypeBundle.moduleParts, List.filterMap_append, hheading,
    henumerations, hmodels, hshared]
  rfl

theorem exportedNames_ofSchema (settings : TypeSettings) (s : Schema) :
    (TypeBundle.ofSchema settings s).exportedNames settings =
      s.enumerationNames ++ (s.models.map Model.name).flatMap recordNames ++ interfaceNames := by
  rw [exportedNames_eq, TypeBundle.ofSchema, List.map_map]
  rfl

/-! ### Suffixes -/

theorem RecordShape.eq_of_suffix {shape shape' : RecordShape}
    (h : shape.suffix.toList <:+ shape'.suffix.toList) : shape = shape' := by
  revert h
  cases shape <;> cases shape' <;> decide

theorem suffix_toList_recordName (model : String) (shape : RecordShape) :
    shape.suffix.toList <:+ (model ++ shape.suffix).toList := by
  rw [String.toList_append]
  exact List.suffix_append _ _

/-- The name of a record tells its model and its shape. -/
theorem recordName_inj {model model' : String} {shape shape' : RecordShape} :
    model ++ shape.suffix = model' ++ shape'.suffix ↔ model = model' ∧ shape = shape' := by
  constructor
  · intro h
    have hsuffix := suffix_toList_recordName model shape
    have hsuffix' := suffix_toList_recordName model' shape'
    rw [h] at hsuffix
    obtain rfl : shape = shape' := by
      obtain hle | hle := List.suffix_or_suffix_of_suffix hsuffix hsuffix'
      · exact RecordShape.eq_of_suffix hle
      · exact (RecordShape.eq_of_suffix hle).symm
    exact ⟨(String.append_left_inj _).1 h, rfl⟩
  · rintro ⟨rfl, rfl⟩
    rfl

theorem mem_recordNames {model name : String} :
    name ∈ recordNames model ↔ ∃ shape : RecordShape, name = model ++ shape.suffix := by
  simp only [recordNames, List.mem_map]
  constructor
  · rintro ⟨shape, -, rfl⟩
    exact ⟨shape, rfl⟩
  · rintro ⟨shape, rfl⟩
    exact ⟨shape, shape.mem_all, rfl⟩

theorem notMem_interfaceNames_of_mem_recordNames {model name : String}
    (h : name ∈ recordNames model) : name ∉ interfaceNames := by
  obtain ⟨shape, rfl⟩ := mem_recordNames.1 h
  have hends : ∀ other ∈ interfaceNames, ¬ shape.suffix.toList <:+ other.toList := by
    cases shape <;> decide
  exact fun hmem => hends _ hmem (suffix_toList_recordName model shape)

theorem notMem_interfaceNames_of_mem_flatMap {models : List String} {name : String}
    (h : name ∈ models.flatMap recordNames) : name ∉ interfaceNames := by
  obtain ⟨model, -, hname⟩ := List.mem_flatMap.1 h
  exact notMem_interfaceNames_of_mem_recordNames hname

theorem mem_flatMap_recordNames {models : List Model} {name : String} :
    name ∈ (models.map Model.name).flatMap recordNames ↔
      ∃ m ∈ models, ∃ shape : RecordShape, name = m.name ++ shape.suffix := by
  simp only [List.mem_flatMap, List.mem_map, mem_recordNames, exists_exists_and_eq_and]

/-! ### Repetitions -/

theorem nodup_recordNames (model : String) : (recordNames model).Nodup := by
  refine List.pairwise_map.2 (List.Pairwise.imp ?_ (by decide : RecordShape.all.Nodup))
  exact fun hne heq => hne (recordName_inj.1 heq).2

theorem disjoint_recordNames_iff {model model' : String} :
    (∀ name ∈ recordNames model, ∀ name' ∈ recordNames model', name ≠ name') ↔
      model ≠ model' := by
  constructor
  · rintro hdisjoint rfl
    have hmem : model ++ RecordShape.scalar.suffix ∈ recordNames model := mem_recordNames.2 ⟨_, rfl⟩
    exact hdisjoint _ hmem _ hmem rfl
  · rintro hne name hname _ hname' rfl
    obtain ⟨shape, rfl⟩ := mem_recordNames.1 hname
    obtain ⟨shape', heq⟩ := mem_recordNames.1 hname'
    exact hne (recordName_inj.1 heq).1

theorem nodup_flatMap_recordNames_iff {models : List String} :
    (models.flatMap recordNames).Nodup ↔ models.Nodup := by
  simp only [List.Nodup, List.pairwise_flatMap, disjoint_recordNames_iff]
  exact and_iff_right fun model _ => nodup_recordNames model

/-- The exported names are distinct exactly if those of the models and those of the enumerations
are, and no enumeration has the name of an interface or of a model's record. -/
theorem nodup_exportedNames_iff (settings : TypeSettings) (s : Schema) :
    let bundle := TypeBundle.ofSchema settings s
    bundle.moduleText settings =
        (linesOf (bundle.moduleParts settings)).map (joined "\n") ∧
      ((bundle.exportedNames settings).Nodup ↔
        (s.models.map Model.name).Nodup ∧ s.enumerationNames.Nodup ∧
          (∀ name ∈ s.enumerationNames, name ∉ interfaceNames) ∧
          ∀ name ∈ s.enumerationNames, ∀ m ∈ s.models, ∀ shape : RecordShape,
            name ≠ m.name ++ shape.suffix) := by
  intro bundle
  refine ⟨congrArg (Except.map _) (moduleLines_eq settings bundle), ?_⟩
  have hshared : interfaceNames.Nodup := by decide
  rw [exportedNames_ofSchema, List.nodup_append, List.nodup_append, nodup_flatMap_recordNames_iff]
  constructor
  · rintro ⟨⟨henumerations, hmodels, hrecords⟩, -, hdisjoint⟩
    refine ⟨hmodels, henumerations, ?_, ?_⟩
    · exact fun name h hmem => hdisjoint name (List.mem_append_left _ h) name hmem rfl
    · exact fun name h m hm shape =>
        hrecords name h _ (mem_flatMap_recordNames.2 ⟨m, hm, shape, rfl⟩)
  · rintro ⟨hmodels, henumerations, hdisjoint, hrecords⟩
    refine ⟨⟨henumerations, hmodels, ?_⟩, hshared, ?_⟩
    · rintro name h _ hrecord rfl
      obtain ⟨m, hm, shape, heq⟩ := mem_flatMap_recordNames.1 hrecord
      exact hrecords name h m hm shape heq
    · rintro name h _ hmem rfl
      obtain h | h := List.mem_append.1 h
      · exact hdisjoint name h hmem
      · exact notMem_interfaceNames_of_mem_flatMap h hmem

/-- All declared names differ, and still an enumeration has the name of a model's record, or that of
an interface. -/
theorem exportedNames_collide :
    let collides := fun s : Schema =>
      (s.models.map Model.name ++ s.enumerationNames).Nodup ∧
        ¬ ((TypeBundle.ofSchema {} s).exportedNames {}).Nodup
    collides (.ofText "model User \x7b\n  id Int @id\n\x7d\nenum UserScalar \x7b\n  A\n\x7d\n") ∧
      collides (.ofText "enum ApiError \x7b\n  A\n\x7d\n") := by
  decide +kernel

end SchemaAtlas

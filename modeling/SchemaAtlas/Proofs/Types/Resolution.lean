import SchemaAtlas.Proofs.Lint.RelationIntegrity
import SchemaAtlas.Proofs.Lists
import SchemaAtlas.Types.Basic

/-!
# What type names stand for

`TypeRef.resolve_cases` says what a type name is resolved to.  A field is unresolved if its type is
neither built in nor an enumeration nor a model, whatever the kind of the field is
(`ModelTypes.unresolved_ofModel`).

Main statement: if every enumeration that the text names is one of the schema, the unresolved types
are those that the check of relations reports as missing models, in the same order
(`unresolved_eq_reported`).
-/

namespace SchemaAtlas

open Text Lint

/-! ### Resolving a name -/

theorem find?_primitiveTypes_eq_none_iff {name : String} :
    (primitiveTypes.find? fun t => t.1 == name) = none ↔ name ∉ builtinTypes := by
  simp only [← primitiveTypes_map_fst, List.find?_eq_none, List.mem_map, not_exists, not_and,
    beq_iff_eq]

theorem Schema.isSome_enumeration?_iff {s : Schema} {name : String} :
    (s.enumeration? name).isSome ↔ name ∈ s.enumerationNames := by
  simp [enumeration?, enumerationNames, List.find?_isSome]

namespace TypeRef

/-- A name stands for a built-in type, or else for an enumeration, or else for a model, or else for
nothing. -/
theorem resolve_cases (s : Schema) (name : String) :
    (∃ t ∈ primitiveTypes, t.1 = name ∧ resolve s name = ⟨t.2, .primitive⟩) ∨
    (name ∉ builtinTypes ∧ name ∈ s.enumerationNames ∧ resolve s name = ⟨name, .enumeration⟩) ∨
    (name ∉ builtinTypes ∧ name ∉ s.enumerationNames ∧
      (∃ m, s.model? name = some m) ∧ resolve s name = ⟨name, .model⟩) ∨
    (name ∉ builtinTypes ∧ name ∉ s.enumerationNames ∧ s.model? name = none ∧
      resolve s name = ⟨name, .unknown⟩) := by
  unfold resolve
  cases hprimitive : primitiveTypes.find? fun t => t.1 == name with
  | some t =>
    exact .inl ⟨t, List.mem_of_find?_eq_some hprimitive, by simpa using List.find?_some hprimitive,
      rfl⟩
  | none =>
    have hbuiltin := find?_primitiveTypes_eq_none_iff.1 hprimitive
    by_cases henum : name ∈ s.enumerationNames
    · exact .inr (.inl ⟨hbuiltin, henum, if_pos (Schema.isSome_enumeration?_iff.2 henum)⟩)
    · have hsome := mt Schema.isSome_enumeration?_iff.1 henum
      cases hmodel : s.model? name with
      | some m =>
        exact .inr (.inr (.inl ⟨hbuiltin, henum, ⟨m, rfl⟩, by simp [hsome]⟩))
      | none => exact .inr (.inr (.inr ⟨hbuiltin, henum, rfl, by simp [hsome]⟩))

variable {s : Schema} {name : String}

theorem origin_resolve_eq_unknown_iff :
    (resolve s name).origin = .unknown ↔
      name ∉ builtinTypes ∧ name ∉ s.enumerationNames ∧ s.model? name = none := by
  obtain ⟨t, ht, rfl, h⟩ | ⟨hbuiltin, henum, h⟩ | ⟨hbuiltin, henum, ⟨m, hm⟩, h⟩ |
    ⟨hbuiltin, henum, hm, h⟩ := resolve_cases s name
  · have hmem : t.1 ∈ builtinTypes := by
      rw [← primitiveTypes_map_fst]
      exact List.mem_map_of_mem ht
    simp [h, hmem]
  · simp [h, henum]
  · simp [h, hm]
  · simp [h, hbuiltin, henum, hm]

theorem name_resolve_of_unknown (h : (resolve s name).origin = .unknown) :
    (resolve s name).name = name := by
  obtain ⟨t, -, -, ht⟩ | ⟨-, -, henum⟩ | ⟨-, -, -, hmodel⟩ | ⟨-, -, -, hunknown⟩ :=
    resolve_cases s name
  · simp [ht] at h
  · rw [henum]
  · rw [hmodel]
  · rw [hunknown]

end TypeRef

/-! ### Unresolved fields -/

/-- The type of a field stands for nothing. -/
def Field.isUnresolved (s : Schema) (f : Field) : Bool :=
  (TypeRef.resolve s f.baseType).origin == .unknown

/-- The entry for a field whose type stands for nothing. -/
def UnresolvedType.ofField (m : Model) (f : Field) : UnresolvedType :=
  ⟨m.name, f.name, f.baseType⟩

section

variable {s : Schema} {m : Model} {f : Field}

theorem Field.isUnresolved_iff :
    f.isUnresolved s ↔
      f.baseType ∉ builtinTypes ∧ f.baseType ∉ s.enumerationNames ∧ s.model? f.baseType = none := by
  rw [isUnresolved, beq_iff_eq, TypeRef.origin_resolve_eq_unknown_iff]

/-- The fields of a model are reported by their types alone, those that hold values first. -/
theorem ModelTypes.unresolved_ofModel (settings : TypeSettings) (s : Schema) (m : Model) :
    (ofModel settings s m).unresolved =
      ((m.scalarFields ++ m.relationFields).filter (Field.isUnresolved s)).map
        (UnresolvedType.ofField m) := by
  simp only [unresolved, ofModel, ← List.map_append, List.filter_map, List.map_map]
  refine List.map_congr_left fun f hf => ?_
  have hunknown : (TypeRef.resolve s f.baseType).origin = .unknown :=
    eq_of_beq (List.mem_filter.1 hf).2
  simp [UnresolvedType.ofField, TypeMember.ofField, TypeRef.name_resolve_of_unknown hunknown]

/-- If all enumerations that the text names are declared, a field that holds values is never
unresolved. -/
theorem filter_isUnresolved_scalarFields {lines : List Line}
    (hdeclared : ∀ name ∈ declaredEnumerations lines,
      name ∈ (Schema.ofLines lines).enumerationNames)
    (hm : m ∈ (Schema.ofLines lines).models) :
    m.scalarFields.filter (Field.isUnresolved (.ofLines lines)) = [] := by
  refine List.filter_eq_nil_iff.2 fun f hf hunresolved => ?_
  obtain ⟨hf, hscalar⟩ := List.mem_filter.1 hf
  obtain ⟨hbuiltin, hname, -⟩ := Field.isUnresolved_iff.1 hunresolved
  have hrelation : f.kind = .relation := by
    rw [kind_eq_ofType hm hf]
    exact FieldKind.ofType_eq_relation_iff.2 ⟨hbuiltin, mt (hdeclared _) hname⟩
  simp [Field.isRelation, hrelation] at hscalar

theorem isUnresolved_iff_of_mem_relationFields {lines : List Line}
    (hm : m ∈ (Schema.ofLines lines).models) (hf : f ∈ m.relationFields) :
    f.isUnresolved (.ofLines lines) ↔ (Schema.ofLines lines).model? f.baseType = none := by
  obtain ⟨hfields, hrelation⟩ := List.mem_filter.1 hf
  have hkind : f.kind = .relation := eq_of_beq hrelation
  rw [kind_eq_ofType hm hfields] at hkind
  obtain ⟨hbuiltin, -⟩ := FieldKind.ofType_eq_relation_iff.1 hkind
  have hmem : (m, f) ∈ (Schema.ofLines lines).relations :=
    Schema.mem_relations_iff.2 ⟨hm, hfields, hrelation⟩
  have hname : f.baseType ∉ (Schema.ofLines lines).enumerationNames :=
    baseType_notMem_enumerationNames hmem
  rw [Field.isUnresolved_iff]
  simp [hbuiltin, hname]

end

/-! ### Reported models -/

/-- The message that a name, the target of a relation, is no model. -/
def noModelMessage (name : String) : String :=
  "Relation target " ++ ticked name ++ " does not exist as a model."

/-- The issue reports that some name is no model. -/
def ReportsNoModel (issue : Issue) : Prop :=
  ∃ name, issue.message = noModelMessage name

theorem toList_noModelMessage (name : String) :
    (noModelMessage name).toList =
      "Relation target `".toList ++ name.toList ++ "` does not exist as a model.".toList := by
  show ("Relation target " ++ ("`" ++ name ++ "`") ++ " does not exist as a model.").toList = _
  simp

theorem reportsNoModel_iff {issue : Issue} :
    ReportsNoModel issue ↔
      "Relation target `".toList <+: issue.message.toList ∧
        "` does not exist as a model.".toList <:+ issue.message.toList.drop 17 := by
  constructor
  · rintro ⟨name, h⟩
    rw [h, toList_noModelMessage]
    simp
  · rintro ⟨⟨rest, hrest⟩, hsuffix⟩
    rw [← hrest, List.drop_left' (by simp)] at hsuffix
    obtain ⟨name, rfl⟩ := hsuffix
    refine ⟨.ofList name, String.toList_inj.1 ?_⟩
    simp [← hrest, toList_noModelMessage]

instance : DecidablePred ReportsNoModel :=
  fun _ => decidable_of_iff _ reportsNoModel_iff.symm

section

variable {s : Schema} {m target : Model} {f : Field}

theorem not_reportsNoModel_of_mem_targetIssues {issue : Issue}
    (h : issue ∈ targetIssues m target f) : ¬ ReportsNoModel issue := by
  rintro ⟨name, hname⟩
  have hmessage := congrArg String.toList hname
  rw [toList_noModelMessage] at hmessage
  rw [targetIssues_eq] at h
  simp only [List.mem_append, List.mem_map] at h
  -- The first letters of the messages differ.
  obtain h | ⟨key, -, rfl⟩ | ⟨reference, -, rfl⟩ := h
  · split at h
    · obtain rfl := List.mem_singleton.1 h
      simp [missingReturn, relationIssue] at hmessage
    · cases h
  · simp [missingKey, relationIssue] at hmessage
  · simp [missingReference, relationIssue] at hmessage

theorem filter_reportsNoModel_fieldIssues (hname : f.baseType ∉ s.enumerationNames) :
    (fieldIssues s m f).filter (fun issue => ReportsNoModel issue) =
      if s.model? f.baseType = none then [missingTarget m f] else [] := by
  cases htarget : s.model? f.baseType with
  | none =>
    have hreports : ReportsNoModel (missingTarget m f) := ⟨f.baseType, rfl⟩
    simp [fieldIssues_of_no_target hname htarget, hreports]
  | some target =>
    rw [fieldIssues_of_target hname htarget, if_neg (Option.some_ne_none _)]
    refine List.filter_eq_nil_iff.2 fun issue h => ?_
    simpa using not_reportsNoModel_of_mem_targetIssues h

end

/-- The check reports the targets of those relation fields that are unresolved. -/
theorem filter_reportsNoModel_relationIssues {lines : List Line} {m : Model}
    (hm : m ∈ (Schema.ofLines lines).models) :
    (relationIssues (.ofLines lines) m).filter (fun issue => ReportsNoModel issue) =
      (m.relationFields.filter (Field.isUnresolved (.ofLines lines))).map (missingTarget m) := by
  rw [relationIssues, List.filter_flatMap]
  refine flatMap_eq_map_filter fun f hf => ?_
  obtain ⟨hfields, hrelation⟩ := List.mem_filter.1 hf
  have hmem : (m, f) ∈ (Schema.ofLines lines).relations :=
    Schema.mem_relations_iff.2 ⟨hm, hfields, hrelation⟩
  rw [filter_reportsNoModel_fieldIssues (baseType_notMem_enumerationNames hmem)]
  simp only [isUnresolved_iff_of_mem_relationFields hm hf]

/-- If every enumeration that the text names is one of the schema, the members whose types stand for
nothing are the relations whose targets are reported to be no models. -/
theorem unresolved_eq_reported (typeSettings : TypeSettings) (lintSettings : LintSettings)
    (text : String)
    (hdeclared : ∀ name ∈ declaredEnumerations (lines text.toList),
      name ∈ (Schema.ofText text).enumerationNames) :
    let s := Schema.ofText text
    ∃ issues, relationRule.run lintSettings s = .ok issues ∧
      (TypeBundle.ofSchema typeSettings s).unresolved.map
          (fun u => (u.model, some u.field, noModelMessage u.typeName)) =
        (issues.filter fun issue => ReportsNoModel issue).map
          fun issue => (issue.model, issue.field, issue.message) := by
  intro s
  refine ⟨s.models.flatMap (relationIssues s), rfl, ?_⟩
  rw [TypeBundle.unresolved, TypeBundle.ofSchema, List.flatMap_map, List.map_flatMap,
    List.filter_flatMap, List.map_flatMap]
  refine List.flatMap_congr fun m hm => ?_
  have hscalar : m.scalarFields.filter (Field.isUnresolved s) = [] :=
    filter_isUnresolved_scalarFields hdeclared hm
  have hreported : (relationIssues s m).filter (fun issue => ReportsNoModel issue) =
      (m.relationFields.filter (Field.isUnresolved s)).map (missingTarget m) :=
    filter_reportsNoModel_relationIssues hm
  rw [ModelTypes.unresolved_ofModel, List.filter_append, hscalar, List.nil_append, hreported,
    List.map_map, List.map_map]
  rfl

theorem unresolved_eq_reported_two :
    let text := "model A \x7b\n  ghost Ghost\n  role Role\n  none nobody[]\n\x7d\n" ++
      "enum Role \x7b\n\x7d\nmodel Role \x7b\n  size Int\n\x7d\nmodel Int \x7b\n\x7d\n"
    let s := Schema.ofText text
    (∀ name ∈ declaredEnumerations (lines text.toList), name ∈ s.enumerationNames) ∧
      (TypeBundle.ofSchema {} s).unresolved =
        [⟨"A", "ghost", "Ghost"⟩, ⟨"A", "none", "nobody"⟩] ∧
      ∃ issues, relationRule.run {} s = .ok issues ∧
        (TypeBundle.ofSchema {} s).unresolved.map
            (fun u => (u.model, some u.field, noModelMessage u.typeName)) =
          (issues.filter fun issue => ReportsNoModel issue).map
            fun issue => (issue.model, issue.field, issue.message) := by
  intro text s
  have hdeclared : ∀ name ∈ declaredEnumerations (lines text.toList),
      name ∈ s.enumerationNames := by
    decide +kernel
  exact ⟨hdeclared, by decide +kernel, unresolved_eq_reported {} {} text hdeclared⟩

end SchemaAtlas

import SchemaAtlas.Lint.Registry
import SchemaAtlas.Proofs.Schema.Relations

/-!
# What the check of relations finds

`RelationFindings` says, without the check, what there is to find about one relation field: that its
target is no model, or else every foreign key and every reference that names no field, and that no
relation leads back.

Main statements: the issues of the check on a schema that has been read are these findings for each
of its relations in order (`relationRule_exact`); and there is no error among them exactly if every
relation `Resolves`, that is, all its names are those of models and fields (`no_errors_iff_resolves`).
A foreign key may be a field of any kind, also a relation (`silent_about_relation_as_key`).
-/

namespace SchemaAtlas

namespace Lint

/-- The names in a list that belong to no field of the model. -/
def unknownNames (m : Model) (names : List String) : List String :=
  names.filter fun name => ∀ f ∈ m.fields, f.name ≠ name

/-- Some relation field of the target leads to a model of the name of `m`. -/
def LeadsBack (target m : Model) : Prop :=
  ∃ back ∈ target.relationFields, back.baseType = m.name

instance (target m : Model) : Decidable (LeadsBack target m) :=
  inferInstanceAs (Decidable (∃ back ∈ target.relationFields, _))

/-- The issues are what there is to find about relation field `f` of model `m`. -/
structure RelationFindings (s : Schema) (m : Model) (f : Field) (issues : List Issue) : Prop where
  concern : ∀ issue ∈ issues, issue.model = m.name ∧ issue.field = some f.name
  no_info : ∀ issue ∈ issues, issue.severity ≠ .info
  no_target : (∀ target ∈ s.models, target.name ≠ f.baseType) →
    issues = [missingTarget m f] ∧ (missingTarget m f).severity = .error
  errors : ∀ target, s.model? f.baseType = some target →
    issues.filter (fun issue => issue.severity = .error) =
      (unknownNames m (f.relation.elim [] Relation.fields)).map (missingKey m f) ++
        (unknownNames target (f.relation.elim [] Relation.references)).map (missingReference m f)
  warnings : ∀ target, s.model? f.baseType = some target →
    issues.filter (fun issue => issue.severity = .warning) =
      if f.isList = false ∧ f.relation.elim [] Relation.fields ≠ [] ∧ ¬ LeadsBack target m then
        [missingReturn m f]
      else []

/-- The issues about the line of the given number. -/
def issuesOn (line : Nat) (issues : List Issue) : List Issue :=
  issues.filter fun issue => issue.line = some line

/-! ### One relation field -/

section

variable {s : Schema} {m target : Model} {f : Field}

theorem unknownNames_eq_filter_not_hasField (m : Model) (names : List String) :
    unknownNames m names = names.filter fun name => !m.hasField name := by
  refine List.filter_congr fun name _ => ?_
  rw [Bool.eq_iff_iff]
  simp [Model.hasField]

theorem lacksReturn_iff :
    lacksReturn m target f ↔ f.isList = false ∧ f.foreignKeys ≠ [] ∧ ¬ LeadsBack target m := by
  simp [lacksReturn, LeadsBack, and_assoc]

theorem targetIssues_eq (m target : Model) (f : Field) :
    targetIssues m target f =
      (if f.isList = false ∧ f.foreignKeys ≠ [] ∧ ¬ LeadsBack target m then [missingReturn m f]
        else []) ++
      ((unknownNames m f.foreignKeys).map (missingKey m f) ++
        (unknownNames target f.references).map (missingReference m f)) := by
  simp only [targetIssues, lacksReturn_iff, unknownNames_eq_filter_not_hasField, List.append_assoc]

theorem fieldIssues_of_no_target (hname : f.baseType ∉ s.enumerationNames)
    (hnone : s.model? f.baseType = none) : fieldIssues s m f = [missingTarget m f] := by
  simp [fieldIssues, hname, hnone]

theorem fieldIssues_of_target (hname : f.baseType ∉ s.enumerationNames)
    (htarget : s.model? f.baseType = some target) : fieldIssues s m f = targetIssues m target f := by
  simp [fieldIssues, hname, htarget]

/-- Whatever is found about a field is found with the data of that field. -/
theorem exists_relationIssue_of_mem_fieldIssues {issue : Issue} (h : issue ∈ fieldIssues s m f) :
    ∃ severity message suggestion, severity ≠ .info ∧
      issue = relationIssue m f severity message suggestion := by
  unfold fieldIssues at h
  split at h
  · simp at h
  · split at h
    · obtain rfl := List.mem_singleton.1 h
      exact ⟨.error, _, _, by decide, rfl⟩
    · rw [targetIssues_eq] at h
      obtain h | h := List.mem_append.1 h
      · split at h
        · obtain rfl := List.mem_singleton.1 h
          exact ⟨.warning, _, _, by decide, rfl⟩
        · simp at h
      · obtain h | h := List.mem_append.1 h
        all_goals
          obtain ⟨name, -, rfl⟩ := List.mem_map.1 h
          exact ⟨.error, _, _, by decide, rfl⟩

theorem filter_error_targetIssues (m target : Model) (f : Field) :
    (targetIssues m target f).filter (fun issue => issue.severity = .error) =
      (unknownNames m f.foreignKeys).map (missingKey m f) ++
        (unknownNames target f.references).map (missingReference m f) := by
  have herrors : ∀ issue ∈ (unknownNames m f.foreignKeys).map (missingKey m f) ++
      (unknownNames target f.references).map (missingReference m f), issue.severity = .error := by
    simp [or_imp, forall_and, missingKey, missingReference, relationIssue]
  rw [targetIssues_eq, List.filter_append,
    List.filter_eq_self.2 fun issue h => decide_eq_true (herrors issue h)]
  split <;> simp [missingReturn, relationIssue]

theorem filter_warning_targetIssues (m target : Model) (f : Field) :
    (targetIssues m target f).filter (fun issue => issue.severity = .warning) =
      if f.isList = false ∧ f.foreignKeys ≠ [] ∧ ¬ LeadsBack target m then [missingReturn m f]
      else [] := by
  have hnone : ((unknownNames m f.foreignKeys).map (missingKey m f) ++
      (unknownNames target f.references).map (missingReference m f)).filter
        (fun issue => issue.severity = .warning) = [] := by
    simp [List.filter_eq_nil_iff, missingKey, missingReference, relationIssue]
  rw [targetIssues_eq, List.filter_append, hnone, List.append_nil]
  split <;> simp [missingReturn, relationIssue]

theorem model?_eq_none_iff {name : String} :
    s.model? name = none ↔ ∀ target ∈ s.models, target.name ≠ name := by
  simp [Schema.model?, List.find?_eq_none]

theorem relationFindings_fieldIssues (hname : f.baseType ∉ s.enumerationNames) :
    RelationFindings s m f (fieldIssues s m f) where
  concern issue h := by
    obtain ⟨_, _, _, -, rfl⟩ := exists_relationIssue_of_mem_fieldIssues h
    exact ⟨rfl, rfl⟩
  no_info issue h := by
    obtain ⟨_, _, _, hseverity, rfl⟩ := exists_relationIssue_of_mem_fieldIssues h
    exact hseverity
  no_target hnone := ⟨fieldIssues_of_no_target hname (model?_eq_none_iff.2 hnone), rfl⟩
  errors target htarget := by
    rw [fieldIssues_of_target hname htarget, filter_error_targetIssues, Field.foreignKeys_eq_elim,
      Field.references_eq_elim]
  warnings target htarget := by
    rw [fieldIssues_of_target hname htarget, filter_warning_targetIssues,
      Field.foreignKeys_eq_elim]

end

/-! ### All relations -/

theorem relationRule_run (settings : LintSettings) (s : Schema) :
    relationRule.run settings s = .ok (s.relations.flatMap fun r => fieldIssues s r.1 r.2) := by
  have hmodel : ∀ m, relationIssues s m =
      (m.relationFields.map fun f => (m, f)).flatMap fun r => fieldIssues s r.1 r.2 :=
    fun m => by rw [relationIssues, List.flatMap_map]
  simp only [Rule.run, relationRule, Schema.relations, List.flatMap_assoc, ← hmodel]

/-- What was found for one item comes out again if the items have different keys. -/
theorem filter_flatMap_eq {α β κ : Type} [DecidableEq κ] {key : α → κ} {tag : β → κ}
    {found : α → List β} (hfound : ∀ a, ∀ b ∈ found a, tag b = key a) {as : List α}
    (has : as.Pairwise fun a a' => key a ≠ key a') {a : α} (ha : a ∈ as) :
    (as.flatMap found).filter (fun b => tag b = key a) = found a := by
  have hself : ∀ a, (found a).filter (fun b => tag b = key a) = found a :=
    fun a => List.filter_eq_self.2 fun b hb => decide_eq_true (hfound a b hb)
  have hother : ∀ a a', key a ≠ key a' → (found a).filter (fun b => tag b = key a') = [] :=
    fun a a' hne => List.filter_eq_nil_iff.2 fun b hb => by simpa [hfound a b hb] using hne
  induction as with
  | nil => simp at ha
  | cons first rest ih =>
    obtain ⟨hfirst, hrest⟩ := List.pairwise_cons.1 has
    rw [List.flatMap_cons, List.filter_append]
    obtain rfl | ha := List.mem_cons.1 ha
    · have hnil : (rest.flatMap found).filter (fun b => tag b = key a) = [] := by
        simp only [List.filter_flatMap, List.flatMap_eq_nil_iff]
        exact fun a' ha' => hother a' a (Ne.symm (hfirst a' ha'))
      rw [hself, hnil, List.append_nil]
    · rw [hother first a (hfirst a ha), List.nil_append, ih hrest ha]

theorem issuesOn_relations {lines : List Line} {r : Model × Field}
    (hr : r ∈ (Schema.ofLines lines).relations) :
    let s := Schema.ofLines lines
    issuesOn r.2.line (s.relations.flatMap fun r => fieldIssues s r.1 r.2) =
      fieldIssues s r.1 r.2 := by
  intro s
  let line := fun r : Model × Field => some r.2.line
  have hline : ∀ r : Model × Field, ∀ issue ∈ fieldIssues s r.1 r.2, issue.line = line r := by
    intro r issue h
    obtain ⟨_, _, _, -, rfl⟩ := exists_relationIssue_of_mem_fieldIssues h
    rfl
  have hpair : s.relations.Pairwise fun r r' => line r ≠ line r' :=
    (pairwise_relations_ofLines lines).imp fun hlt heq => Nat.ne_of_lt hlt (Option.some.inj heq)
  exact filter_flatMap_eq hline hpair hr

/-- The check of relations finds what there is to find about every relation field, each on its own
line, and nothing else, in the order of the models and of their fields. -/
theorem relationRule_exact (settings : LintSettings) (text : String) :
    let s := Schema.ofText text
    ∃ issues, relationRule.run settings s = .ok issues ∧
      (∀ r ∈ s.relations, RelationFindings s r.1 r.2 (issuesOn r.2.line issues)) ∧
      issues = s.relations.flatMap fun r => issuesOn r.2.line issues := by
  intro s
  have hon : ∀ r ∈ s.relations, issuesOn r.2.line
      (s.relations.flatMap fun r => fieldIssues s r.1 r.2) = fieldIssues s r.1 r.2 :=
    fun r hr => issuesOn_relations hr
  refine ⟨_, relationRule_run settings s, fun r hr => ?_, ?_⟩
  · rw [hon r hr]
    exact relationFindings_fieldIssues (baseType_notMem_enumerationNames hr)
  · exact (List.flatMap_congr hon).symm

/-! ### Silence about errors -/

/-- Every foreign key of the relation field is a field of its model, and the target is a model in
which every reference is a field. -/
def Resolves (s : Schema) (m : Model) (f : Field) : Prop :=
  (∀ key ∈ f.relation.elim [] Relation.fields, ∃ g ∈ m.fields, g.name = key) ∧
    ∃ target, s.model? f.baseType = some target ∧
      ∀ name ∈ f.relation.elim [] Relation.references, ∃ g ∈ target.fields, g.name = name

theorem unknownNames_eq_nil_iff {m : Model} {names : List String} :
    unknownNames m names = [] ↔ ∀ name ∈ names, ∃ f ∈ m.fields, f.name = name := by
  simp [unknownNames, List.filter_eq_nil_iff]

theorem no_error_fieldIssues_iff {s : Schema} {m : Model} {f : Field}
    (hname : f.baseType ∉ s.enumerationNames) :
    (∀ issue ∈ fieldIssues s m f, issue.severity ≠ .error) ↔ Resolves s m f := by
  cases htarget : s.model? f.baseType with
  | none =>
    have herror : (missingTarget m f).severity = .error := rfl
    simp [fieldIssues_of_no_target hname htarget, herror, Resolves, htarget]
  | some target =>
    have hnil : (∀ issue ∈ fieldIssues s m f, issue.severity ≠ .error) ↔
        (fieldIssues s m f).filter (fun issue => issue.severity = .error) = [] := by
      simp [List.filter_eq_nil_iff]
    rw [hnil, fieldIssues_of_target hname htarget, filter_error_targetIssues]
    simp [unknownNames_eq_nil_iff, Resolves, htarget, Field.foreignKeys_eq_elim,
      Field.references_eq_elim]

/-- The check reports no error exactly if every relation of the schema resolves. -/
theorem no_errors_iff_resolves (settings : LintSettings) (text : String) :
    let s := Schema.ofText text
    ∃ issues, relationRule.run settings s = .ok issues ∧
      ((∀ issue ∈ issues, issue.severity ≠ .error) ↔ ∀ r ∈ s.relations, Resolves s r.1 r.2) := by
  intro s
  refine ⟨_, relationRule_run settings s, ?_⟩
  have hresolves : ∀ r ∈ s.relations,
      (∀ issue ∈ fieldIssues s r.1 r.2, issue.severity ≠ .error) ↔ Resolves s r.1 r.2 :=
    fun r hr => no_error_fieldIssues_iff (baseType_notMem_enumerationNames hr)
  constructor
  · intro hsilent r hr
    exact (hresolves r hr).1 fun issue h => hsilent issue (List.mem_flatMap_of_mem hr h)
  · intro hall issue h
    obtain ⟨r, hr, hissue⟩ := List.mem_flatMap.1 h
    exact (hresolves r hr).2 (hall r hr) issue hissue

/-- Nothing is reported about a relation that names itself as its foreign key. -/
theorem silent_about_relation_as_key :
    let s := Schema.ofText ("model A \x7b\n  id Int @id\n" ++
      "  b B @relation(fields: [b], references: [id])\n\x7d\n" ++
      "model B \x7b\n  id Int @id\n  as A[]\n\x7d\n")
    relationRule.run {} s = .ok [] ∧
      ¬ ∀ r ∈ s.relations, ∀ key ∈ r.2.foreignKeys, ∃ g ∈ r.1.scalarFields, g.name = key := by
  decide +kernel

end Lint

end SchemaAtlas

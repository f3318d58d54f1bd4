import SchemaAtlas.Proofs.Lint.RelationIntegrity

/-!
# Relations that a second field completes

A relation field that holds foreign keys is completed by another relation field, in its target, that
leads back (`IsCompleted`).  The check looks for a field that leads back among all relation fields of
the target, so it takes a field that leads from a model to itself for its own way back
(`IsLoneLoop`).

Main statement: the check is silent about such a field exactly if its names resolve and it is
completed or a lone loop, which is never both (`silent_iff_completed_or_loneLoop`).  So silence does
not mean that a relation is completed (`silent_about_lone_loop`).
-/

namespace SchemaAtlas

/-- Models of a schema that have a field in common are the same model. -/
theorem eq_of_mem_fields {lines : List Line} {m m' : Model} (hm : m ∈ (Schema.ofLines lines).models)
    (hm' : m' ∈ (Schema.ofLines lines).models) {f : Field} (hf : f ∈ m.fields)
    (hf' : f ∈ m'.fields) : m = m' := by
  have hpair : (Schema.ofLines lines).models.Pairwise fun m m' =>
      ∀ f, f ∈ m.fields → f ∈ m'.fields → m = m' :=
    (pairwise_fields_models lines).imp fun hlt f hf hf' =>
      absurd (hlt f hf f hf') (Nat.lt_irrefl _)
  have hflip : (Schema.ofLines lines).models.Pairwise fun m' m =>
      ∀ f, f ∈ m.fields → f ∈ m'.fields → m = m' :=
    hpair.imp fun heq f hf hf' => (heq f hf' hf).symm
  exact List.Pairwise.forall_of_forall_of_flip (fun _ _ _ _ _ => rfl) hpair hflip hm hm' f hf hf'

namespace Lint

/-- The field is the end of its relation that holds the foreign keys. -/
def HoldsKeys (f : Field) : Prop :=
  f.isList = false ∧ f.foreignKeys ≠ []

/-- Another relation field, in the target of `f`, leads back to the model. -/
def IsCompleted (s : Schema) (m : Model) (f : Field) : Prop :=
  ∃ target ∈ s.model? f.baseType, ∃ back ∈ target.relationFields, back ≠ f ∧ back.baseType = m.name

/-- The field leads from the model to itself, and no other field of the model does. -/
def IsLoneLoop (s : Schema) (m : Model) (f : Field) : Prop :=
  s.model? f.baseType = some m ∧ ∀ back ∈ m.relationFields, back.baseType = m.name → back = f

/-- Among the issues is no error about the field, and not that no relation leads back. -/
def SilentAbout (m : Model) (f : Field) (issues : List Issue) : Prop :=
  ∀ issue ∈ issuesOn f.line issues, issue.severity ≠ .error ∧ issue ≠ missingReturn m f

instance (f : Field) : Decidable (HoldsKeys f) :=
  inferInstanceAs (Decidable (_ ∧ _))

instance (s : Schema) (m : Model) (f : Field) : Decidable (IsCompleted s m f) :=
  inferInstanceAs (Decidable (∃ target ∈ s.model? f.baseType, _))

instance (m : Model) (f : Field) (issues : List Issue) : Decidable (SilentAbout m f issues) :=
  inferInstanceAs (Decidable (∀ issue ∈ issuesOn f.line issues, _))

section

variable {s : Schema} {m target : Model} {f : Field}

theorem not_loneLoop_of_completed (h : IsCompleted s m f) : ¬ IsLoneLoop s m f := by
  rintro ⟨hloop, honly⟩
  obtain ⟨target, htarget, back, hback, hne, hname⟩ := h
  obtain rfl : m = target := Option.some.inj (hloop.symm.trans htarget)
  exact hne (honly back hback hname)

/-- A relation leads back to the model if and only if the field is completed or is that relation. -/
theorem leadsBack_iff (htarget : s.model? f.baseType = some target) (hf : f.isRelation)
    (hself : f ∈ target.fields → target = m) (hmem : f ∈ m.fields) :
    LeadsBack target m ↔ IsCompleted s m f ∨ IsLoneLoop s m f := by
  constructor
  · rintro ⟨back, hback, hname⟩
    by_cases hother : ∃ back ∈ target.relationFields, back ≠ f ∧ back.baseType = m.name
    · exact .inl ⟨target, htarget, hother⟩
    · have honly : ∀ back ∈ target.relationFields, back.baseType = m.name → back = f := by
        intro back hback hname
        by_contra hne
        exact hother ⟨back, hback, hne, hname⟩
      obtain rfl := honly back hback hname
      obtain rfl := hself (List.mem_of_mem_filter hback)
      exact .inr ⟨htarget, honly⟩
  · rintro (⟨target', htarget', back, hback, -, hname⟩ | ⟨hloop, -⟩)
    · obtain rfl : target' = target := Option.some.inj (htarget'.symm.trans htarget)
      exact ⟨back, hback, hname⟩
    · obtain rfl : m = target := Option.some.inj (hloop.symm.trans htarget)
      exact ⟨f, List.mem_filter.2 ⟨hmem, hf⟩, (Schema.mem_models_of_model? htarget).2.symm⟩

theorem missingReturn_mem_fieldIssues_iff (hname : f.baseType ∉ s.enumerationNames)
    (htarget : s.model? f.baseType = some target) (hkeys : HoldsKeys f) :
    missingReturn m f ∈ fieldIssues s m f ↔ ¬ LeadsBack target m := by
  have hwarning : (missingReturn m f).severity = .warning := rfl
  have hfilter := filter_warning_targetIssues m target f
  rw [fieldIssues_of_target hname htarget]
  have hmem : missingReturn m f ∈ targetIssues m target f ↔
      missingReturn m f ∈ (targetIssues m target f).filter (fun issue => issue.severity = .warning) := by
    simp [hwarning]
  rw [hmem, hfilter]
  by_cases hback : LeadsBack target m <;> simp [hback, hkeys.1, hkeys.2]

/-- What has to hold of a field that holds keys, if nothing is reported about it. -/
theorem silent_fieldIssues_iff (hname : f.baseType ∉ s.enumerationNames) (hkeys : HoldsKeys f) :
    (∀ issue ∈ fieldIssues s m f, issue.severity ≠ .error ∧ issue ≠ missingReturn m f) ↔
      Resolves s m f ∧ ∀ target, s.model? f.baseType = some target → LeadsBack target m := by
  rw [forall₂_and, no_error_fieldIssues_iff hname]
  refine and_congr_right fun hresolves => ?_
  obtain ⟨-, target, htarget, -⟩ := hresolves
  have hback := missingReturn_mem_fieldIssues_iff (m := m) hname htarget hkeys
  constructor
  · intro hsilent target' htarget'
    obtain rfl : target = target' := Option.some.inj (htarget.symm.trans htarget')
    by_contra hnone
    exact hsilent _ (hback.2 hnone) rfl
  · rintro hleads issue hissue rfl
    exact hback.1 hissue (hleads target htarget)

end

/-- About a relation field that holds foreign keys, the check reports no error and no missing way
back exactly if its names resolve and another field of its target leads back, or it leads from its
model to itself and is the only field that does. -/
theorem silent_iff_completed_or_loneLoop (settings : LintSettings) (text : String) :
    let s := Schema.ofText text
    ∃ issues, relationRule.run settings s = .ok issues ∧
      ∀ r ∈ s.relations, HoldsKeys r.2 →
        (SilentAbout r.1 r.2 issues ↔
          Resolves s r.1 r.2 ∧ (IsCompleted s r.1 r.2 ∨ IsLoneLoop s r.1 r.2)) ∧
        ¬ (IsCompleted s r.1 r.2 ∧ IsLoneLoop s r.1 r.2) := by
  intro s
  refine ⟨_, relationRule_run settings s, fun r hr hkeys => ⟨?_, ?_⟩⟩
  · obtain ⟨hm, hf, hrelation⟩ := Schema.mem_relations_iff.1 hr
    have hon : issuesOn r.2.line (s.relations.flatMap fun r => fieldIssues s r.1 r.2) =
        fieldIssues s r.1 r.2 := issuesOn_relations hr
    have hname : r.2.baseType ∉ s.enumerationNames := baseType_notMem_enumerationNames hr
    rw [SilentAbout, hon, silent_fieldIssues_iff hname hkeys]
    refine and_congr_right fun hresolves => ?_
    obtain ⟨-, target, htarget, -⟩ := hresolves
    have hself : r.2 ∈ target.fields → target = r.1 :=
      fun hmem => eq_of_mem_fields (Schema.mem_models_of_model? htarget).1 hm hmem hf
    rw [← leadsBack_iff htarget hrelation hself hf]
    simp [htarget]
  · exact fun h => not_loneLoop_of_completed h.1 h.2

/-- A tree in which the children lead back to their parent. -/
theorem silent_about_completed_loop :
    let s := Schema.ofText ("model Node \x7b\n  id Int @id\n  parentId Int?\n" ++
      "  parent Node? @relation(fields: [parentId], references: [id])\n  children Node[]\n\x7d\n")
    ∃ r ∈ s.relations, HoldsKeys r.2 ∧ IsCompleted s r.1 r.2 ∧ SilentAbout r.1 r.2 [] ∧
      Resolves s r.1 r.2 := by
  intro s
  obtain ⟨issues, hrun, hiff⟩ := silent_iff_completed_or_loneLoop {} ("model Node \x7b\n" ++
    "  id Int @id\n  parentId Int?\n" ++
    "  parent Node? @relation(fields: [parentId], references: [id])\n  children Node[]\n\x7d\n")
  have hparent : relationRule.run {} s = .ok [] ∧
      ∃ r ∈ s.relations, HoldsKeys r.2 ∧ IsCompleted s r.1 r.2 := by decide +kernel
  obtain ⟨hnone, r, hr, hkeys, hcompleted⟩ := hparent
  obtain rfl : [] = issues := Except.ok.inj (hnone.symm.trans hrun)
  have hsilent : SilentAbout r.1 r.2 [] := by simp [SilentAbout, issuesOn]
  exact ⟨r, hr, hkeys, hcompleted, hsilent, ((hiff r hr hkeys).1.1 hsilent).1⟩

/-- Nothing is reported about a model that leads to itself by one field, though nothing else leads
back. -/
theorem silent_about_lone_loop :
    let s := Schema.ofText ("model Node \x7b\n  id Int @id\n  parentId Int?\n" ++
      "  parent Node? @relation(fields: [parentId], references: [id])\n\x7d\n")
    relationRule.run {} s = .ok [] ∧
      ∃ r ∈ s.relations, HoldsKeys r.2 ∧ ¬ IsCompleted s r.1 r.2 := by
  decide +kernel

end Lint

end SchemaAtlas

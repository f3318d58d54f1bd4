import SchemaAtlas.Proofs.Lint.Reports
import SchemaAtlas.Schema.Source

/-!
# Findings and the order of declarations

`Model.Reorders` relates models that differ in the order of their fields, indexes and constraints,
and `Schema.Reorders` relates schemas that differ in the order of their declarations and in models of
this kind.  Rules look names up, and the first declaration of a name counts.  So the names of fields
have to be different for a foreign key to be found on the same line (`Model.Reorders.field?`), and the
names of models for a relation to have the same target (`Schema.Reorders.model?`).

Main statement: then the reports about both schemas have, rule by rule, the same issues in some order
(`validate_of_reorders`).
-/

namespace SchemaAtlas

/-- The second model is the first one with its fields, indexes and constraints in some order. -/
structure Model.Reorders (m m' : Model) : Prop where
  name : m'.name = m.name
  fields : m.fields.Perm m'.fields
  mappedName : m'.mappedName = m.mappedName
  indexes : m.indexes.Perm m'.indexes
  uniqueConstraints : m.uniqueConstraints.Perm m'.uniqueConstraints
  comments : m'.comments = m.comments
  line : m'.line = m.line
  endLine : m'.endLine = m.endLine

/-- The second schema is the first one with its declarations in some order, the models with what they
hold in some order. -/
structure Schema.Reorders (s s' : Schema) : Prop where
  models : ∃ models, List.Forall₂ Model.Reorders s.models models ∧ models.Perm s'.models
  enumerations : s.enumerations.Perm s'.enumerations

/-- No name is that of two fields. -/
def Model.HasDistinctFields (m : Model) : Prop :=
  (m.fields.map Field.name).Nodup

/-- No name is that of two models, and none that of two fields of a model. -/
structure Schema.HasDistinctNames (s : Schema) : Prop where
  models : (s.models.map Model.name).Nodup
  fields : ∀ m ∈ s.models, m.HasDistinctFields

/-! ### Look-up -/

namespace Model.Reorders

variable {m m' : Model} (h : m.Reorders m')
include h

theorem relationFields : m.relationFields.Perm m'.relationFields :=
  h.fields.filter _

theorem hasField (name : String) : m'.hasField name = m.hasField name :=
  h.fields.symm.any_eq

/-- The first field of a name is the only one. -/
theorem field? (hdistinct : m.HasDistinctFields) (name : String) : m'.field? name = m.field? name :=
  (find?_perm hdistinct h.fields name).symm

end Model.Reorders

namespace Schema.Reorders

variable {s s' : Schema} (h : s.Reorders s')
include h

theorem enumerationNames : s.enumerationNames.Perm s'.enumerationNames :=
  h.enumerations.map _

/-- The first model of a name is the only one, and its fields are those of the other schema. -/
theorem model? (hdistinct : (s.models.map Model.name).Nodup) (name : String) :
    Option.Rel Model.Reorders (s.model? name) (s'.model? name) := by
  obtain ⟨models, hmodels, hperm⟩ := h.models
  have hnames : models.map Model.name = s.models.map Model.name := by
    rw [← List.forall₂_eq_eq_eq, List.forall₂_map_left_iff, List.forall₂_map_right_iff]
    exact .flip (hmodels.imp fun _ _ hm => hm.name)
  have hfound : s'.model? name = models.find? fun m => m.name == name :=
    (find?_perm (hnames ▸ hdistinct) hperm name).symm
  rw [hfound, Schema.model?]
  clear hfound hnames hperm hdistinct
  generalize s.models = first at hmodels
  induction hmodels with
  | nil => exact .none
  | @cons m m' rest rest' hm _ ih =>
    rw [List.find?_cons, List.find?_cons, hm.name]
    split
    · exact .some hm
    · exact ih

/-- What is found model by model in both schemas is the same if it is so for every model. -/
theorem flatMap_models {α : Type} {found found' : Model → List α}
    (hfound : ∀ m ∈ s.models, ∀ m', m.Reorders m' → (found m).Perm (found' m')) :
    (s.models.flatMap found).Perm (s'.models.flatMap found') := by
  obtain ⟨models, hmodels, hperm⟩ := h.models
  have hreorders := (List.forall₂_and_left s.models models).2 ⟨fun _ => id, hmodels⟩
  exact (flatMap_perm_of_forall₂ hreorders fun m m' hm => hfound m hm.1 m' hm.2).trans
    (hperm.flatMap_right found')

end Schema.Reorders

/-- Declarations and the fields of models the other way round. -/
theorem Schema.reorders_reverse (s : Schema) :
    s.Reorders ⟨(s.models.map fun m => { m with fields := m.fields.reverse }).reverse,
      s.enumerations.reverse⟩ := by
  have hmodel : ∀ m : Model, m.Reorders { m with fields := m.fields.reverse } := fun m =>
    ⟨rfl, (List.reverse_perm _).symm, rfl, .refl _, .refl _, rfl, rfl, rfl⟩
  refine ⟨⟨_, ?_, (List.reverse_perm _).symm⟩, (List.reverse_perm _).symm⟩
  rw [List.forall₂_map_right_iff, List.forall₂_same]
  exact fun m _ => hmodel m

namespace Lint

/-! ### One model -/

section

variable {m m' : Model} (h : m.Reorders m')
include h

theorem foreignKeys_of_reorders : (foreignKeys m).Perm (foreignKeys m') :=
  eraseDups_perm (h.relationFields.flatMap_right _)

theorem isCovered_of_reorders (key : String) : isCovered m' key = isCovered m key := by
  have hattributes : m'.blockAttributes.Perm m.blockAttributes :=
    h.indexes.symm.append h.uniqueConstraints.symm
  rw [isCovered, isCovered, hattributes.any_eq, h.fields.symm.any_eq]

theorem missingIndex_of_reorders (hdistinct : m.HasDistinctFields) (key : String) :
    missingIndex m' key = missingIndex m key := by
  rw [missingIndex, missingIndex, h.name, h.field? hdistinct]

theorem missingIndexIssues_of_reorders (hdistinct : m.HasDistinctFields) :
    (missingIndexIssues m).Perm (missingIndexIssues m') := by
  rw [missingIndexIssues, missingIndexIssues, funext (missingIndex_of_reorders h hdistinct)]
  simp only [isCovered_of_reorders h]
  exact ((foreignKeys_of_reorders h).filter _).map _

theorem uniquenessIssues_of_reorders (settings : LintSettings) :
    (uniquenessIssues settings m).Perm (uniquenessIssues settings m') := by
  have hmight : mightBeUnique settings m' = mightBeUnique settings m := by
    funext f
    rw [mightBeUnique, mightBeUnique, h.uniqueConstraints.symm.any_eq]
  have hissue : possiblyUnique m' = possiblyUnique m := by
    funext f
    rw [possiblyUnique, possiblyUnique, h.name]
  rw [uniquenessIssues, uniquenessIssues, hmight, hissue]
  exact (h.fields.filter _).map _

theorem targetIssues_of_reorders {target target' : Model} (htarget : target.Reorders target')
    (f : Field) : targetIssues m' target' f = targetIssues m target f := by
  have hissue : relationIssue m' f = relationIssue m f := by
    funext severity message suggestion
    rw [relationIssue, relationIssue, h.name]
  have hlacks : lacksReturn m' target' f = lacksReturn m target f := by
    rw [lacksReturn, lacksReturn, htarget.relationFields.symm.any_eq, h.name]
  have hkey : missingKey m' f = missingKey m f := by
    funext key
    rw [missingKey, missingKey, hissue]
  have hreference : missingReference m' f = missingReference m f := by
    funext name
    rw [missingReference, missingReference, hissue]
  simp only [targetIssues, hlacks, missingReturn, hissue, h.name, hkey, hreference, h.hasField,
    htarget.hasField]

theorem fieldIssues_of_reorders {s s' : Schema} (hs : s.Reorders s')
    (hdistinct : (s.models.map Model.name).Nodup) (f : Field) :
    fieldIssues s' m' f = fieldIssues s m f := by
  have hnames : s'.enumerationNames.contains f.baseType = s.enumerationNames.contains f.baseType :=
    hs.enumerationNames.symm.contains_eq
  have hmodel := hs.model? hdistinct f.baseType
  rw [fieldIssues, fieldIssues, hnames]
  split
  · rfl
  · generalize s.model? f.baseType = found, s'.model? f.baseType = found' at hmodel
    cases hmodel with
    | none =>
      show [missingTarget m' f] = [missingTarget m f]
      rw [missingTarget, missingTarget, relationIssue, relationIssue, h.name]
    | some htarget => exact targetIssues_of_reorders h htarget f

theorem relationIssues_of_reorders {s s' : Schema} (hs : s.Reorders s')
    (hdistinct : (s.models.map Model.name).Nodup) :
    (relationIssues s m).Perm (relationIssues s' m') := by
  rw [relationIssues, relationIssues, funext (fieldIssues_of_reorders h hs hdistinct)]
  exact h.relationFields.flatMap_right _

theorem lacksTimestamps_of_reorders (settings : LintSettings) (skipped : List Pattern) :
    lacksTimestamps settings skipped m' = lacksTimestamps settings skipped m := by
  simp only [lacksTimestamps, h.name, h.hasField, h.fields.length_eq]

theorem missingTimestamps_of_reorders (settings : LintSettings) :
    missingTimestamps settings m' = missingTimestamps settings m := by
  rw [missingTimestamps, missingTimestamps, h.name, h.line]

end

/-! ### All models -/

section

variable {settings : LintSettings} {s s' : Schema}

theorem timestampIssues_of_reorders (hs : s.Reorders s') {issues issues' : List Issue}
    (h : timestampIssues settings s.models = .ok issues)
    (h' : timestampIssues settings s'.models = .ok issues') : issues.Perm issues' := by
  obtain ⟨skipped, hskipped, hissues⟩ := bind_eq_ok_iff.1 h
  obtain ⟨skipped', hskipped', hissues'⟩ := bind_eq_ok_iff.1 h'
  obtain rfl : skipped = skipped' := Except.ok.inj (hskipped.symm.trans hskipped')
  obtain rfl := Except.ok.inj hissues
  obtain rfl := Except.ok.inj hissues'
  let found (m : Model) : List Issue :=
    if lacksTimestamps settings skipped m then [missingTimestamps settings m] else []
  have hfound : ∀ models : List Model,
      (models.filter (lacksTimestamps settings skipped)).map (missingTimestamps settings) =
        models.flatMap found := fun models => (flatMap_eq_map_filter fun _ _ => rfl).symm
  rw [hfound, hfound]
  refine hs.flatMap_models fun m _ m' hm => ?_
  simp only [found, lacksTimestamps_of_reorders hm, missingTimestamps_of_reorders hm]
  exact .refl _

/-- A rule finds the same issues in some order. -/
theorem IsResultOf.issues_perm (hs : s.Reorders s') (hdistinct : s.HasDistinctNames) {rule : Rule}
    {result result' : RuleResult} (h : IsResultOf settings s rule result)
    (h' : IsResultOf settings s' rule result') : result.issues.Perm result'.issues := by
  have hrun := h.run
  have hrun' := h'.run
  obtain rfl | rfl | rfl | rfl := mem_builtinRules_iff.1 h.builtin
  · rw [← Except.ok.inj hrun, ← Except.ok.inj hrun']
    exact hs.flatMap_models fun m hm m' h => missingIndexIssues_of_reorders h (hdistinct.fields m hm)
  · rw [← Except.ok.inj hrun, ← Except.ok.inj hrun']
    exact hs.flatMap_models fun m _ m' h => uniquenessIssues_of_reorders h settings
  · rw [← Except.ok.inj hrun, ← Except.ok.inj hrun']
    exact hs.flatMap_models fun m _ m' h => relationIssues_of_reorders h hs hdistinct.models
  · exact timestampIssues_of_reorders hs hrun hrun'

/-- The results are of the same rule and hold the same issues in some order. -/
structure SameFindings (result result' : RuleResult) : Prop where
  rule : result'.rule = result.rule
  issues : result.issues.Perm result'.issues

/-- Reports about schemas that differ in the order of declarations hold, rule by rule and as a whole,
the same issues in some order. -/
theorem validate_of_reorders (hpatterns : PatternsReadable settings) (hs : s.Reorders s')
    (hdistinct : s.HasDistinctNames) :
    ∃ report report',
      validate settings s = .ok report ∧ validate settings s' = .ok report' ∧
      List.Forall₂ SameFindings report.results report'.results ∧
      report.issues.Perm report'.issues := by
  obtain ⟨report, hreport⟩ := exists_report hpatterns s
  obtain ⟨report', hreport'⟩ := exists_report hpatterns s'
  have hsame : List.Forall₂ SameFindings report.results report'.results :=
    forall₂_of_common (validate_eq_ok_iff.1 hreport) (validate_eq_ok_iff.1 hreport')
      fun rule result result' h h' =>
        ⟨h'.id.trans h.id.symm, IsResultOf.issues_perm hs hdistinct h h'⟩
  exact ⟨report, report', hreport, hreport', hsame,
    flatMap_perm_of_forall₂ hsame fun _ _ h => h.issues⟩

end

/-- Models, their fields and the enumerations stand the other way round. -/
theorem validate_of_reorders_reversed :
    let user : List Field := [
      { name := "id", baseType := "Int", kind := .scalar, isId := true, line := 2 },
      { name := "email", baseType := "String", kind := .scalar, line := 3 },
      { name := "city", baseType := "City", kind := .relation, relation := some ⟨none, ["home"], [],
        none, none⟩, line := 4 },
      { name := "home", baseType := "Int", kind := .scalar, line := 5 }]
    let city : List Field := [
      { name := "slug", baseType := "String", kind := .scalar, line := 8 },
      { name := "mayor", baseType := "Person", kind := .relation, line := 9 },
      { name := "state", baseType := "State", kind := .enumeration, line := 10 }]
    let s : Schema := ⟨[{ name := "User", fields := user, line := 1 },
      { name := "City", fields := city, line := 7 }], [⟨"State", ["NEW"]⟩, ⟨"Level", ["LOW"]⟩]⟩
    let s' : Schema := ⟨(s.models.map fun m => { m with fields := m.fields.reverse }).reverse,
      s.enumerations.reverse⟩
    let shown (issue : Issue) := (issue.field, issue.line)
    PatternsReadable {} ∧ s.Reorders s' ∧ s.HasDistinctNames ∧ ∃ report report',
      validate {} s = .ok report ∧ validate {} s' = .ok report' ∧
      report.issues.Perm report'.issues ∧
      report.issues.map shown = [(some "home", some 5), (some "email", some 3),
        (some "slug", some 8), (some "city", some 4), (some "mayor", some 9), (none, some 1)] ∧
      report'.issues.map shown = [(some "home", some 5), (some "slug", some 8),
        (some "email", some 3), (some "mayor", some 9), (some "city", some 4), (none, some 1)] := by
  intro user city s s' shown
  have hs : s.Reorders s' := s.reorders_reverse
  have hdistinct : s.HasDistinctNames := ⟨by decide +kernel, by
    unfold Model.HasDistinctFields
    decide +kernel⟩
  have hshown : (validate {} s).toOption.map (fun report => report.issues.map shown) =
      some [(some "home", some 5), (some "email", some 3), (some "slug", some 8),
        (some "city", some 4), (some "mayor", some 9), (none, some 1)] := by
    decide +kernel
  have hshown' : (validate {} s').toOption.map (fun report => report.issues.map shown) =
      some [(some "home", some 5), (some "slug", some 8), (some "email", some 3),
        (some "mayor", some 9), (some "city", some 4), (none, some 1)] := by
    decide +kernel
  obtain ⟨report, report', hreport, hreport', -, hperm⟩ :=
    validate_of_reorders patternsReadable_default hs hdistinct
  rw [hreport] at hshown
  rw [hreport'] at hshown'
  exact ⟨patternsReadable_default, hs, hdistinct, report, report', hreport, hreport', hperm,
    Option.some.inj hshown, Option.some.inj hshown'⟩

end Lint

end SchemaAtlas

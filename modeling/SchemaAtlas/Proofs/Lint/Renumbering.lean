import Mathlib.Data.List.Forall2
import SchemaAtlas.Proofs.Lint.Reports

/-!
# Findings and line numbers

Rules copy line numbers into their findings and never look at them.  `Model.Renumbers` relates
models that differ in line numbers, and perhaps in their indexes, and `Schema.Renumbers` relates
schemas of such models.  Of rules that do not look at indexes the findings about two related schemas
are the same with other line numbers (`run_of_renumbers`); the rule about indexes finds the same in
models with equal indexes (`missingIndexIssues_of_renumbers`).

If the patterns of the settings can be read, there are reports about both schemas, which differ in line
numbers and in the findings about indexes alone (`validate_of_renumbers`).
-/

namespace SchemaAtlas

/-- The field with another line number. -/
def Field.renumbered (r : Nat → Nat) (f : Field) : Field :=
  { f with line := r f.line }

/-- The issue with another line number. -/
def Issue.renumbered (r : Nat → Nat) (issue : Issue) : Issue :=
  { issue with line := issue.line.map r }

/-- The findings of a rule with other line numbers. -/
def RuleResult.renumbered (r : Nat → Nat) (result : RuleResult) : RuleResult :=
  { result with issues := result.issues.map (.renumbered r) }

/-- Apart from indexes, the second model is the first one with other line numbers. -/
structure Model.Renumbers (r : Nat → Nat) (m m' : Model) : Prop where
  name : m'.name = m.name
  fields : m'.fields = m.fields.map (.renumbered r)
  uniqueConstraints : m'.uniqueConstraints = m.uniqueConstraints
  line : m'.line = r m.line

/-- Apart from indexes, the second schema is the first one with other line numbers. -/
structure Schema.Renumbers (r : Nat → Nat) (s s' : Schema) : Prop where
  models : List.Forall₂ (Model.Renumbers r) s.models s'.models
  enumerations : s'.enumerations = s.enumerations

/-! ### Fields -/

namespace Model.Renumbers

variable {r : Nat → Nat} {m m' : Model} (h : m.Renumbers r m')
include h

theorem relationFields : m'.relationFields = m.relationFields.map (.renumbered r) := by
  rw [Model.relationFields, h.fields, List.filter_map]
  rfl

theorem hasField (name : String) : m'.hasField name = m.hasField name := by
  rw [Model.hasField, h.fields, List.any_map]
  rfl

theorem field? (name : String) : m'.field? name = (m.field? name).map (.renumbered r) := by
  rw [Model.field?, h.fields, List.find?_map]
  rfl

end Model.Renumbers

theorem Schema.Renumbers.model? {r : Nat → Nat} {s s' : Schema} (h : s.Renumbers r s')
    (name : String) : Option.Rel (Model.Renumbers r) (s.model? name) (s'.model? name) := by
  unfold Schema.model?
  have hmodels := h.models
  generalize s.models = models, s'.models = models' at hmodels
  induction hmodels with
  | nil => exact .none
  | @cons m m' rest rest' hm _ ih =>
    rw [List.find?_cons, List.find?_cons, hm.name]
    split
    · exact .some hm
    · exact ih

namespace Lint

/-! ### One model -/

section

variable {r : Nat → Nat} {m m' : Model} (h : m.Renumbers r m')
include h

theorem foreignKeys_of_renumbers : foreignKeys m' = foreignKeys m := by
  rw [foreignKeys, h.relationFields, List.flatMap_map]
  rfl

theorem missingIndex_of_renumbers (key : String) :
    missingIndex m' key = (missingIndex m key).renumbered r := by
  simp only [missingIndex, Issue.renumbered, h.name, h.field?, Option.map_map]
  rfl

theorem isCovered_of_renumbers (hindexes : m'.indexes = m.indexes) (key : String) :
    isCovered m' key = isCovered m key := by
  rw [isCovered, Model.blockAttributes, hindexes, h.uniqueConstraints, h.fields, List.any_map]
  rfl

theorem missingIndexIssues_of_renumbers (hindexes : m'.indexes = m.indexes) :
    missingIndexIssues m' = (missingIndexIssues m).map (.renumbered r) := by
  simp only [missingIndexIssues, foreignKeys_of_renumbers h, isCovered_of_renumbers h hindexes,
    List.map_map]
  exact List.map_congr_left fun key _ => missingIndex_of_renumbers h key

theorem uniquenessIssues_of_renumbers (settings : LintSettings) :
    uniquenessIssues settings m' = (uniquenessIssues settings m).map (.renumbered r) := by
  have hfield : ∀ f, mightBeUnique settings m' (f.renumbered r) = mightBeUnique settings m f := by
    intro f
    rw [mightBeUnique, h.uniqueConstraints]
    rfl
  have hissue : ∀ f, possiblyUnique m' (f.renumbered r) = (possiblyUnique m f).renumbered r := by
    intro f
    rw [possiblyUnique, h.name]
    rfl
  rw [uniquenessIssues, h.fields, List.filter_map, List.map_map, uniquenessIssues, List.map_map]
  simp only [Function.comp_def, hfield, hissue]

theorem lacksTimestamps_of_renumbers (settings : LintSettings) (skipped : List Pattern) :
    lacksTimestamps settings skipped m' = lacksTimestamps settings skipped m := by
  simp only [lacksTimestamps, h.name, h.hasField, h.fields, List.length_map]

theorem missingTimestamps_of_renumbers (settings : LintSettings) :
    missingTimestamps settings m' = (missingTimestamps settings m).renumbered r := by
  rw [missingTimestamps, h.name, h.line]
  rfl

theorem relationIssue_of_renumbers (f : Field) (severity : Severity) (message : String)
    (suggestion : Option String) :
    relationIssue m' (f.renumbered r) severity message suggestion =
      (relationIssue m f severity message suggestion).renumbered r := by
  rw [relationIssue, h.name]
  rfl

theorem lacksReturn_of_renumbers {target target' : Model} (htarget : target.Renumbers r target')
    (f : Field) : lacksReturn m' target' (f.renumbered r) = lacksReturn m target f := by
  rw [lacksReturn, htarget.relationFields, List.any_map, h.name]
  rfl

theorem targetIssues_of_renumbers {target target' : Model} (htarget : target.Renumbers r target')
    (f : Field) :
    targetIssues m' target' (f.renumbered r) = (targetIssues m target f).map (.renumbered r) := by
  have hreturn : missingReturn m' (f.renumbered r) = (missingReturn m f).renumbered r := by
    rw [missingReturn, relationIssue_of_renumbers h, h.name]
    rfl
  have hkey : missingKey m' (f.renumbered r) = Issue.renumbered r ∘ missingKey m f :=
    funext fun key => relationIssue_of_renumbers h f _ _ _
  have hreference :
      missingReference m' (f.renumbered r) = Issue.renumbered r ∘ missingReference m f :=
    funext fun name => relationIssue_of_renumbers h f _ _ _
  have hkeys : (f.renumbered r).foreignKeys = f.foreignKeys := rfl
  have hreferences : (f.renumbered r).references = f.references := rfl
  simp only [targetIssues, lacksReturn_of_renumbers h htarget, h.hasField, htarget.hasField, hkeys,
    hreferences, List.map_append, List.map_map, hreturn, hkey, hreference]
  split <;> rfl

theorem relationIssues_of_renumbers {s s' : Schema} (hs : s.Renumbers r s') :
    relationIssues s' m' = (relationIssues s m).map (.renumbered r) := by
  have hnames : s'.enumerationNames = s.enumerationNames := by
    rw [Schema.enumerationNames, hs.enumerations]
    rfl
  have hfield : ∀ f, fieldIssues s' m' (f.renumbered r) =
      (fieldIssues s m f).map (.renumbered r) := by
    intro f
    have hmodel := hs.model? f.baseType
    have htype : (f.renumbered r).baseType = f.baseType := rfl
    rw [fieldIssues, fieldIssues, hnames, htype]
    split
    · rfl
    · generalize s.model? f.baseType = found, s'.model? f.baseType = found' at hmodel
      cases hmodel with
      | none => exact congrArg (fun issue => [issue]) (relationIssue_of_renumbers h f _ _ _)
      | some htarget => exact targetIssues_of_renumbers h htarget f
  rw [relationIssues, h.relationFields, List.flatMap_map, relationIssues, List.map_flatMap]
  exact List.flatMap_congr fun f _ => hfield f

end

/-! ### All models -/

section

variable {r : Nat → Nat} {s s' : Schema}

theorem flatMap_of_forall₂ {α β γ δ : Type} {R : α → β → Prop} {found : α → List γ}
    {found' : β → List δ} {change : γ → δ} (h : ∀ a b, R a b → found' b = (found a).map change)
    {as : List α} {bs : List β} (hrel : List.Forall₂ R as bs) :
    bs.flatMap found' = (as.flatMap found).map change := by
  induction hrel with
  | nil => rfl
  | cons hab _ ih => rw [List.flatMap_cons, List.flatMap_cons, h _ _ hab, ih, List.map_append]

theorem timestampIssues_of_renumbers (settings : LintSettings) {models models' : List Model}
    (h : List.Forall₂ (Model.Renumbers r) models models') :
    timestampIssues settings models' =
      (timestampIssues settings models).map (List.map (.renumbered r)) := by
  unfold timestampIssues
  cases settings.joinTablePatterns.mapM readPattern with
  | error fault => rfl
  | ok skipped =>
    refine congrArg Except.ok ?_
    show (models'.filter _).map _ = ((models.filter _).map _).map _
    induction h with
    | nil => rfl
    | @cons m m' rest rest' hm _ ih =>
      rw [List.filter_cons, List.filter_cons, lacksTimestamps_of_renumbers hm]
      split
      · rw [List.map_cons, List.map_cons, List.map_cons, missingTimestamps_of_renumbers hm, ih]
      · exact ih

/-- A rule that does not look at indexes finds the same on other lines. -/
theorem run_of_renumbers (hs : s.Renumbers r s') (settings : LintSettings) {rule : Rule}
    (hrule : rule ∈ [uniquenessRule, relationRule, timestampRule]) :
    rule.run settings s' = (rule.run settings s).map (List.map (.renumbered r)) := by
  simp only [List.mem_cons, List.not_mem_nil, or_false] at hrule
  obtain rfl | rfl | rfl := hrule
  · have hmodel : ∀ m m', m.Renumbers r m' → uniquenessIssues settings m' =
        (uniquenessIssues settings m).map (.renumbered r) :=
      fun m m' hm => uniquenessIssues_of_renumbers hm settings
    exact congrArg Except.ok (flatMap_of_forall₂ hmodel hs.models)
  · have hmodel : ∀ m m', m.Renumbers r m' → relationIssues s' m' =
        (relationIssues s m).map (.renumbered r) :=
      fun m m' hm => relationIssues_of_renumbers hm hs
    exact congrArg Except.ok (flatMap_of_forall₂ hmodel hs.models)
  · exact timestampIssues_of_renumbers settings hs.models

end

/-! ### Reports -/

/-- Reports about a schema and about the same schema on other lines, perhaps with other indexes,
differ in line numbers and in the findings about indexes alone. -/
theorem validate_of_renumbers {settings : LintSettings} (hpatterns : PatternsReadable settings)
    (henabled : indexRule.id ∉ settings.disabledRules) {r : Nat → Nat} {s s' : Schema}
    (hs : s.Renumbers r s') :
    ∃ results,
      validate settings s =
        .ok ⟨⟨indexRule.id, s.models.flatMap missingIndexIssues⟩ :: results⟩ ∧
      validate settings s' =
        .ok ⟨⟨indexRule.id, s'.models.flatMap missingIndexIssues⟩ ::
          results.map (.renumbered r)⟩ := by
  let others := [uniquenessRule, relationRule, timestampRule].filter fun rule =>
    !settings.disabledRules.contains rule.id
  have hrules : (builtinRules.filter fun rule => !settings.disabledRules.contains rule.id) =
      indexRule :: others := by
    rw [builtinRules, List.filter_cons_of_pos (by simpa using henabled)]
  have hothers : ∀ rule ∈ others, rule ∈ [uniquenessRule, relationRule, timestampRule] :=
    fun rule hrule => List.mem_of_mem_filter hrule
  have hresult : ∀ rule ∈ others, rule.result settings s' =
      (rule.result settings s).map (.renumbered r) := by
    intro rule hrule
    rw [Rule.result, Rule.result, run_of_renumbers hs settings (hothers rule hrule)]
    cases rule.run settings s <;> rfl
  obtain ⟨results, hresults⟩ : ∃ results, others.mapM (Rule.result settings s) = .ok results :=
    exists_mapM_eq_ok fun rule hrule =>
      exists_result hpatterns s (List.mem_cons_of_mem indexRule (hothers rule hrule))
  have hresults' : others.mapM (Rule.result settings s') = .ok (results.map (.renumbered r)) := by
    rw [mapM_of_eq_map hresult, hresults]
    rfl
  refine ⟨results, ?_, ?_⟩
  · rw [validate_eq, hrules, List.mapM_cons, hresults]
    rfl
  · rw [validate_eq, hrules, List.mapM_cons, hresults']
    rfl

end Lint

end SchemaAtlas

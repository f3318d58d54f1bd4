import SchemaAtlas.Lint.Registry
import SchemaAtlas.Proofs.Lists

/-!
# Reports and what they are made of

A report holds one result for each rule that is not disabled, in the order of registration
(`validate_eq_ok_iff`).  Every rule finds something or nothing, but does not fail, if the patterns of
the settings can be read (`exists_result`), and then there is a report (`exists_report`).
-/

namespace SchemaAtlas.Lint

variable {settings : LintSettings} {s : Schema}

theorem mem_builtinRules_iff {rule : Rule} : rule ∈ builtinRules ↔
    rule = indexRule ∨ rule = uniquenessRule ∨ rule = relationRule ∨ rule = timestampRule := by
  simp only [builtinRules, List.mem_cons, List.not_mem_nil, or_false]

theorem enabled_builtinRegistry (disabled : List String) :
    builtinRegistry.enabled disabled =
      builtinRules.filter fun rule => !disabled.contains rule.id :=
  rfl

/-- What a rule contributes to a report. -/
def Rule.result (settings : LintSettings) (s : Schema) (rule : Rule) :
    Except CheckFault RuleResult :=
  (rule.run settings s).map fun issues => ⟨rule.id, issues⟩

/-- The result is what the built-in rule finds. -/
structure IsResultOf (settings : LintSettings) (s : Schema) (rule : Rule) (result : RuleResult) :
    Prop where
  builtin : rule ∈ builtinRules
  id : result.rule = rule.id
  run : rule.run settings s = .ok result.issues

theorem isResultOf_iff {rule : Rule} {result : RuleResult} :
    IsResultOf settings s rule result ↔
      rule ∈ builtinRules ∧ rule.result settings s = .ok result := by
  have hresult : rule.result settings s = .ok result ↔
      result.rule = rule.id ∧ rule.run settings s = .ok result.issues := by
    obtain ⟨id, issues⟩ := result
    rw [Rule.result, eq_comm (a := id)]
    cases rule.run settings s <;> simp [Except.map]
  rw [hresult]
  exact ⟨fun h => ⟨h.builtin, h.id, h.run⟩, fun ⟨hbuiltin, hid, hrun⟩ => ⟨hbuiltin, hid, hrun⟩⟩

/-- All patterns of the settings can be read. -/
def PatternsReadable (settings : LintSettings) : Prop :=
  ∀ text ∈ settings.joinTablePatterns, ∃ pattern, Pattern.ofText text = .ok pattern

/-- The patterns of the default settings can be read. -/
theorem patternsReadable_default : PatternsReadable {} := by
  have hread :
      (Pattern.ofText "^(RolePermission|UserPermission|UserOnCompany)$").isOk := by
    decide +kernel
  intro text htext
  obtain rfl := List.mem_singleton.1 htext
  exact exists_eq_ok_of_isOk hread

theorem validate_eq (settings : LintSettings) (s : Schema) :
    validate settings s =
      ((builtinRules.filter fun rule => !settings.disabledRules.contains rule.id).mapM
        (Rule.result settings s)).map Report.mk := by
  have hresult : (fun rule : Rule => do
      let issues ← rule.run settings s
      return (⟨rule.id, issues⟩ : RuleResult)) = Rule.result settings s := by
    funext rule
    rw [Rule.result]
    cases rule.run settings s <;> rfl
  rw [validate, Registry.run, enabled_builtinRegistry, hresult]
  cases List.mapM (Rule.result settings s) _ <;> rfl

/-- A report holds the results of the rules that are not disabled. -/
theorem validate_eq_ok_iff {report : Report} : validate settings s = .ok report ↔
    List.Forall₂ (IsResultOf settings s) (builtinRegistry.enabled settings.disabledRules)
      report.results := by
  have hbuiltin : ∀ rule ∈ builtinRegistry.enabled settings.disabledRules, rule ∈ builtinRules :=
    fun _ hrule => List.mem_of_mem_filter hrule
  have hresults : List.Forall₂ (IsResultOf settings s)
      (builtinRegistry.enabled settings.disabledRules) report.results ↔
      (builtinRegistry.enabled settings.disabledRules).mapM (Rule.result settings s) =
        .ok report.results := by
    have hboth : IsResultOf settings s = fun rule result =>
        rule ∈ builtinRules ∧ rule.result settings s = .ok result :=
      funext₂ fun _ _ => propext isResultOf_iff
    rw [hboth, List.forall₂_and_left, mapM_eq_ok_iff]
    exact and_iff_right hbuiltin
  obtain ⟨results⟩ := report
  rw [hresults, validate_eq, enabled_builtinRegistry]
  cases List.mapM (Rule.result settings s) _ <;> simp [Except.map]

theorem exists_result (h : PatternsReadable settings) (s : Schema) {rule : Rule}
    (hrule : rule ∈ builtinRules) : ∃ result, rule.result settings s = .ok result := by
  obtain rfl | rfl | rfl | rfl := mem_builtinRules_iff.1 hrule
  · exact ⟨_, rfl⟩
  · exact ⟨_, rfl⟩
  · exact ⟨_, rfl⟩
  · have hread : ∀ text ∈ settings.joinTablePatterns,
        ∃ pattern, readPattern text = .ok pattern := by
      intro text htext
      obtain ⟨pattern, hpattern⟩ := h text htext
      exact ⟨pattern, by rw [readPattern, hpattern]; rfl⟩
    obtain ⟨skipped, hskipped⟩ := exists_mapM_eq_ok hread
    simp only [Rule.result, Rule.run, timestampRule, timestampIssues, hskipped]
    exact ⟨_, rfl⟩

theorem exists_report (h : PatternsReadable settings) (s : Schema) :
    ∃ report, validate settings s = .ok report := by
  obtain ⟨results, hresults⟩ := exists_mapM_eq_ok fun rule hrule =>
    exists_result h s (List.mem_of_mem_filter (a := rule) hrule)
  exact ⟨⟨results⟩, by rw [validate_eq, hresults]; rfl⟩

end SchemaAtlas.Lint

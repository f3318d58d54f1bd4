import SchemaAtlas.Proofs.Lint.RelationIntegrity
import SchemaAtlas.Proofs.Lint.Reports

/-!
# Rules that are left out

A rule `AnswersFor` a finding that carries its identifier and is no more serious than the rule may be;
every built-in rule answers for all that it finds (`answersFor_of_mem_run`).  No rule looks at the
list of disabled rules, so to disable some rules is to take their results out of the report.

Main statement: with further rules disabled there is the same report without the issues of these
rules (`validate_disabling`).
-/

namespace SchemaAtlas

/-- The settings with further rules disabled. -/
def LintSettings.disabling (settings : LintSettings) (ids : List String) : LintSettings :=
  { settings with disabledRules := settings.disabledRules ++ ids }

namespace Lint

/-- The finding carries the identifier of the rule and is no more serious than the rule may be. -/
structure Rule.AnswersFor (rule : Rule) (issue : Issue) : Prop where
  id : issue.rule = rule.id
  severity : issue.severity.rank ≤ rule.severity.rank

/-- The report holds, in the order of registration, what each rule finds that is not disabled, and
the rule answers for it. -/
structure IsReportOf (settings : LintSettings) (s : Schema) (report : Report) : Prop where
  rules : report.rules =
    (builtinRegistry.all.map Rule.id).filter fun id => id ∉ settings.disabledRules
  found : ∀ result ∈ report.results, ∃ rule ∈ builtinRegistry.all,
    result.rule = rule.id ∧ rule.run settings s = .ok result.issues ∧
      ∀ issue ∈ result.issues, rule.AnswersFor issue

variable {settings : LintSettings} {s : Schema}

/-! ### What a rule finds -/

section

variable {issues : List Issue} {issue : Issue}

theorem answersFor_of_mem_missingIndexIssues {m : Model} (h : issue ∈ missingIndexIssues m) :
    indexRule.AnswersFor issue := by
  obtain ⟨key, -, rfl⟩ := List.mem_map.1 h
  exact ⟨rfl, Nat.le_refl _⟩

theorem answersFor_of_mem_uniquenessIssues {m : Model} (h : issue ∈ uniquenessIssues settings m) :
    uniquenessRule.AnswersFor issue := by
  obtain ⟨f, -, rfl⟩ := List.mem_map.1 h
  exact ⟨rfl, Nat.le_refl _⟩

theorem answersFor_of_mem_relationIssues {m : Model} (h : issue ∈ relationIssues s m) :
    relationRule.AnswersFor issue := by
  obtain ⟨f, -, hf⟩ := List.mem_flatMap.1 h
  obtain ⟨severity, _, _, -, rfl⟩ := exists_relationIssue_of_mem_fieldIssues hf
  -- The rule may find errors, and nothing is more serious.
  refine ⟨rfl, ?_⟩
  show severity.rank ≤ Severity.error.rank
  cases severity <;> decide

theorem answersFor_of_mem_timestampIssues {models : List Model}
    (hissues : timestampIssues settings models = .ok issues) (h : issue ∈ issues) :
    timestampRule.AnswersFor issue := by
  obtain ⟨skipped, -, hfound⟩ := bind_eq_ok_iff.1 hissues
  obtain rfl := Except.ok.inj hfound
  obtain ⟨m, -, rfl⟩ := List.mem_map.1 h
  exact ⟨rfl, Nat.le_refl _⟩

theorem answersFor_of_mem_run {rule : Rule} (hrule : rule ∈ builtinRules)
    (hrun : rule.run settings s = .ok issues) (h : issue ∈ issues) : rule.AnswersFor issue := by
  obtain rfl | rfl | rfl | rfl := mem_builtinRules_iff.1 hrule
  · obtain rfl := Except.ok.inj hrun
    obtain ⟨m, -, hm⟩ := List.mem_flatMap.1 h
    exact answersFor_of_mem_missingIndexIssues hm
  · obtain rfl := Except.ok.inj hrun
    obtain ⟨m, -, hm⟩ := List.mem_flatMap.1 h
    exact answersFor_of_mem_uniquenessIssues hm
  · obtain rfl := Except.ok.inj hrun
    obtain ⟨m, -, hm⟩ := List.mem_flatMap.1 h
    exact answersFor_of_mem_relationIssues hm
  · exact answersFor_of_mem_timestampIssues hrun h

end

/-- A rule finds the same whatever rules are disabled. -/
theorem IsResultOf.disabling {rule : Rule} {result : RuleResult}
    (h : IsResultOf settings s rule result) (ids : List String) :
    IsResultOf (settings.disabling ids) s rule result where
  builtin := h.builtin
  id := h.id
  run := by
    have hsame : rule.run (settings.disabling ids) s = rule.run settings s := by
      obtain rfl | rfl | rfl | rfl := mem_builtinRules_iff.1 h.builtin <;> rfl
    rw [hsame, h.run]

/-! ### Reports -/

section

variable {report : Report}

theorem isReportOf_of_validate (h : validate settings s = .ok report) :
    IsReportOf settings s report where
  rules := by
    have hids : (builtinRegistry.enabled settings.disabledRules).map Rule.id =
        report.results.map RuleResult.rule := by
      rw [← List.forall₂_eq_eq_eq, List.forall₂_map_left_iff, List.forall₂_map_right_iff]
      exact (validate_eq_ok_iff.1 h).imp fun _ _ hresult => hresult.id.symm
    rw [Report.rules, ← hids, Registry.enabled, List.filter_map]
    exact congrArg (List.map Rule.id) (List.filter_congr fun rule _ => by simp)
  found := by
    refine forall_mem_of_forall₂ (validate_eq_ok_iff.1 h) fun rule result hresult => ?_
    exact ⟨rule, hresult.builtin, hresult.id, hresult.run, fun _ hissue =>
      answersFor_of_mem_run hresult.builtin hresult.run hissue⟩

/-- Every issue carries the identifier under which its result stands. -/
theorem IsReportOf.rule_eq (h : IsReportOf settings s report) {result : RuleResult}
    (hresult : result ∈ report.results) {issue : Issue} (hissue : issue ∈ result.issues) :
    issue.rule = result.rule := by
  obtain ⟨rule, -, hid, -, hanswers⟩ := h.found result hresult
  rw [hid, (hanswers issue hissue).id]

theorem enabled_append (registry : Registry) (disabled ids : List String) :
    registry.enabled (disabled ++ ids) =
      (registry.enabled disabled).filter fun rule => !ids.contains rule.id := by
  rw [Registry.enabled, Registry.enabled, List.filter_filter]
  refine List.filter_congr fun rule _ => ?_
  rw [List.contains_append, Bool.not_or, Bool.and_comm]

/-- To disable rules is to take their results out of the report. -/
theorem validate_disabling_eq (h : validate settings s = .ok report) (ids : List String) :
    validate (settings.disabling ids) s =
      .ok ⟨report.results.filter fun result => !ids.contains result.rule⟩ := by
  rw [validate_eq_ok_iff]
  show List.Forall₂ _ (builtinRegistry.enabled (settings.disabledRules ++ ids)) _
  rw [enabled_append]
  have hkept := List.rel_filter (p := fun rule => !ids.contains rule.id)
    (q := fun result => !ids.contains result.rule)
    (fun rule result (hresult : IsResultOf settings s rule result) => by
      simp only [hresult.id]) (validate_eq_ok_iff.1 h)
  exact hkept.imp fun _ _ hresult => hresult.disabling ids

/-- The issues of the results that are kept are the issues of the rules that are kept. -/
theorem flatMap_issues_filter {results : List RuleResult}
    (h : ∀ result ∈ results, ∀ issue ∈ result.issues, issue.rule = result.rule)
    (keep : String → Bool) :
    (results.filter fun result => keep result.rule).flatMap RuleResult.issues =
      (results.flatMap RuleResult.issues).filter fun issue => keep issue.rule := by
  induction results with
  | nil => rfl
  | cons result rest ih =>
    obtain ⟨hresult, hrest⟩ := List.forall_mem_cons.1 h
    have hissues : result.issues.filter (fun issue => keep issue.rule) =
        if keep result.rule then result.issues else [] := by
      rw [List.filter_congr fun issue hissue => congrArg keep (hresult issue hissue)]
      cases keep result.rule <;> simp
    rw [List.flatMap_cons, List.filter_append, hissues, ← ih hrest, List.filter_cons]
    split <;> rfl

/-- With further rules disabled, the report is the one without that, less the issues of these rules,
in the same order; and both list what the rules find that are not disabled. -/
theorem validate_disabling (h : PatternsReadable settings) (ids : List String) (s : Schema) :
    ∃ report report',
      validate settings s = .ok report ∧ validate (settings.disabling ids) s = .ok report' ∧
      IsReportOf settings s report ∧ IsReportOf (settings.disabling ids) s report' ∧
      report'.issues = report.issues.filter fun issue => issue.rule ∉ ids := by
  obtain ⟨report, hreport⟩ := exists_report h s
  have hof := isReportOf_of_validate hreport
  have hreport' := validate_disabling_eq hreport ids
  refine ⟨report, _, hreport, hreport', hof, isReportOf_of_validate hreport', ?_⟩
  rw [Report.issues, Report.issues, flatMap_issues_filter
    (fun result hresult issue hissue => hof.rule_eq hresult hissue) fun id => !ids.contains id]
  exact List.filter_congr fun issue _ => by simp

end

/-- Two of the rules that find something are disabled, and one that there is not. -/
theorem validate_disabling_two_rules :
    let user : List Field := [
      { name := "id", baseType := "Int", kind := .scalar, isId := true, line := 2 },
      { name := "email", baseType := "String", kind := .scalar, line := 3 },
      { name := "city", baseType := "City", kind := .relation, relation := some ⟨none, ["at"], [],
        none, none⟩, line := 4 },
      { name := "team", baseType := "Team", kind := .relation, line := 5 }]
    let city : List Field := [{ name := "slug", baseType := "String", kind := .scalar, line := 8 }]
    let s : Schema := ⟨[{ name := "User", fields := user, line := 1 },
      { name := "City", fields := city, line := 7 }], []⟩
    PatternsReadable {} ∧ ∃ report report',
      validate {} s = .ok report ∧
      validate (LintSettings.disabling {} ["potential-unique", "missing-fk-index", "none"]) s =
        .ok report' ∧
      report.issues.map Issue.rule =
        ["missing-fk-index", "potential-unique", "potential-unique", "relation-integrity",
          "relation-integrity", "relation-integrity", "missing-timestamps"] ∧
      report'.issues.map Issue.rule =
        ["relation-integrity", "relation-integrity", "relation-integrity", "missing-timestamps"] := by
  intro user city s
  let ids := ["potential-unique", "missing-fk-index", "none"]
  have hrules : (validate {} s).toOption.map (fun report => report.issues.map Issue.rule) =
      some ["missing-fk-index", "potential-unique", "potential-unique", "relation-integrity",
        "relation-integrity", "relation-integrity", "missing-timestamps"] := by
    decide +kernel
  obtain ⟨report, report', hreport, hreport', -, -, hissues⟩ :=
    validate_disabling patternsReadable_default ids s
  rw [hreport] at hrules
  have hrules : report.issues.map Issue.rule = _ := Option.some.inj hrules
  refine ⟨patternsReadable_default, report, report', hreport, hreport', hrules, ?_⟩
  have hkept : report'.issues.map Issue.rule =
      (report.issues.map Issue.rule).filter fun id => id ∉ ids := by
    rw [hissues, List.filter_map]
    rfl
  rw [hkept, hrules]
  decide

end Lint

end SchemaAtlas

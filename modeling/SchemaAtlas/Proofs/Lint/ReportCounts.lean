import Mathlib.Algebra.GroupWithZero.Nat
import SchemaAtlas.Lint.Listing
import SchemaAtlas.Proofs.Schema.Groups

/-!
# Counts, thresholds and listings of reports

A report counts its issues by severity, compares them with a threshold and lists them under headings,
each in a pass of its own.  `Report.IsCoherent` says that all this agrees: every issue is counted in
one severity, a threshold is reached if a severity at or above it has a count, and the listing puts
the issues of each severity that occurs into one group.

Main statement: reports of whatever results are coherent (`Report.isCoherent`).
-/

namespace SchemaAtlas

namespace Severity

theorem nodup_all : all.Nodup := by
  decide

theorem pairwise_rank_all : all.Pairwise fun a b => b.rank < a.rank := by
  decide

end Severity

namespace Report

/-- The number of issues that are at least as serious as the threshold, by the counts. -/
def countFrom (report : Report) (threshold : Severity) : Nat :=
  ((report.counts.filter fun c => threshold.rank ≤ c.1.rank).map Prod.snd).sum

/-- The items list the issues in groups: the severities that occur, the most serious first, each with
its issues in the order of the report.  Together the groups hold every issue once. -/
structure Groups (report : Report) (groups : List (Severity × List Issue))
    (items : List ConsoleItem) : Prop where
  descending : groups.Pairwise fun g g' => g'.1.rank < g.1.rank
  nonempty : ∀ g ∈ groups, g.2 ≠ []
  members : ∀ g ∈ groups, g.2 = report.issues.filter fun issue => issue.severity = g.1
  complete : (groups.flatMap Prod.snd).Perm report.issues
  items : items = groups.flatMap fun g =>
    [.verbatim "", .line (g.1.heading ++ " (" ++ toString g.2.length ++ ")")] ++
      g.2.flatMap Issue.listing

/-- What a report says about its issues agrees. -/
structure IsCoherent (report : Report) : Prop where
  severities : report.counts.map Prod.fst = Severity.all
  total : (report.counts.map Prod.snd).sum = report.issues.length
  fails_iff : ∀ threshold, report.fails threshold ↔ report.countFrom threshold ≠ 0
  fails_mono : ∀ threshold lower : Severity, lower.rank ≤ threshold.rank →
    report.fails threshold → report.fails lower
  hasErrors : report.hasErrors = report.fails .error
  listing : ∃ groups, report.Groups groups report.listing

variable (report : Report)

/-! ### Counts -/

theorem issuesOf_eq (severity : Severity) :
    report.issuesOf severity = report.issues.filter fun issue => issue.severity = severity := by
  unfold issuesOf
  exact List.filter_congr fun issue _ => beq_eq_decide _ _

/-- Every issue has one of the severities. -/
theorem flatMap_issuesOf_perm : (Severity.all.flatMap report.issuesOf).Perm report.issues := by
  rw [funext report.issuesOf_eq]
  exact flatMap_filter_perm Severity.nodup_all fun issue _ => issue.severity.mem_all

theorem sum_counts : (report.counts.map Prod.snd).sum = report.issues.length := by
  rw [← report.flatMap_issuesOf_perm.length_eq, List.length_flatMap]
  unfold counts
  rw [List.map_map]
  congr 1
  exact List.map_congr_left fun severity _ => report.count_eq_length_issuesOf severity

/-! ### Thresholds -/

theorem fails_iff_exists (threshold : Severity) :
    report.fails threshold ↔ ∃ issue ∈ report.issues, threshold.rank ≤ issue.severity.rank := by
  unfold fails
  rw [List.any_eq_true]
  simp only [decide_eq_true_eq]

theorem count_ne_zero_iff (severity : Severity) :
    report.count severity ≠ 0 ↔ ∃ issue ∈ report.issues, issue.severity = severity := by
  unfold count
  rw [← Nat.pos_iff_ne_zero, List.countP_pos_iff]
  simp only [beq_iff_eq]

theorem countFrom_ne_zero_iff (threshold : Severity) :
    report.countFrom threshold ≠ 0 ↔
      ∃ severity : Severity, threshold.rank ≤ severity.rank ∧ report.count severity ≠ 0 := by
  have hmem : ∀ n, n ∈ (report.counts.filter fun c => threshold.rank ≤ c.1.rank).map Prod.snd ↔
      ∃ severity : Severity, threshold.rank ≤ severity.rank ∧ report.count severity = n := by
    intro n
    unfold counts
    rw [List.filter_map, List.map_map, List.mem_map]
    constructor
    · rintro ⟨severity, hseverity, hcount⟩
      exact ⟨severity, of_decide_eq_true (List.mem_filter.1 hseverity).2, hcount⟩
    · rintro ⟨severity, hrank, hcount⟩
      exact ⟨severity, List.mem_filter.2 ⟨severity.mem_all, decide_eq_true hrank⟩, hcount⟩
  unfold countFrom
  rw [ne_eq, List.sum_eq_zero_iff_forall_eq_nat]
  push Not
  constructor
  · rintro ⟨n, hn, hcount⟩
    obtain ⟨severity, hrank, rfl⟩ := (hmem n).1 hn
    exact ⟨severity, hrank, hcount⟩
  · rintro ⟨severity, hrank, hcount⟩
    exact ⟨report.count severity, (hmem _).2 ⟨severity, hrank, rfl⟩, hcount⟩

theorem fails_iff_countFrom (threshold : Severity) :
    report.fails threshold ↔ report.countFrom threshold ≠ 0 := by
  rw [fails_iff_exists, countFrom_ne_zero_iff]
  constructor
  · rintro ⟨issue, hissue, hrank⟩
    exact ⟨issue.severity, hrank, (report.count_ne_zero_iff _).2 ⟨issue, hissue, rfl⟩⟩
  · rintro ⟨severity, hrank, hcount⟩
    obtain ⟨issue, hissue, rfl⟩ := (report.count_ne_zero_iff _).1 hcount
    exact ⟨issue, hissue, hrank⟩

/-- Nothing is more serious than an error. -/
theorem hasErrors_eq : report.hasErrors = report.fails .error := by
  have hrank : ∀ severity : Severity, (severity == .error) =
      decide (Severity.error.rank ≤ severity.rank) := by
    intro severity
    cases severity <;> rfl
  unfold hasErrors fails
  simp only [hrank]

/-! ### Listings -/

/-- The severities that occur, each with its issues. -/
def groups : List (Severity × List Issue) :=
  (Severity.all.map fun severity => (severity, report.issuesOf severity)).filter
    fun g => !g.2.isEmpty

/-- What is collected from the groups is collected from all severities, if nothing comes from one that
does not occur. -/
theorem flatMap_groups {β : Type} {collect : Severity × List Issue → List β}
    (hempty : ∀ severity, collect (severity, []) = []) :
    report.groups.flatMap collect =
      Severity.all.flatMap fun severity => collect (severity, report.issuesOf severity) := by
  have hnone : ∀ g : Severity × List Issue, (!g.2.isEmpty) = false → collect g = [] := by
    rintro ⟨severity, issues⟩ h
    obtain rfl : issues = [] := by simpa using h
    exact hempty severity
  unfold groups
  rw [flatMap_filter_of_eq_nil hnone, List.flatMap_map]

theorem groups_listing : report.Groups report.groups report.listing where
  descending := by
    unfold groups
    apply List.Pairwise.filter
    exact List.pairwise_map.2 Severity.pairwise_rank_all
  nonempty g hg := by
    unfold groups at hg
    simpa using (List.mem_filter.1 hg).2
  members g hg := by
    unfold groups at hg
    obtain ⟨severity, -, rfl⟩ := List.mem_map.1 (List.mem_of_mem_filter hg)
    exact report.issuesOf_eq severity
  complete := by
    rw [report.flatMap_groups fun _ => rfl]
    exact report.flatMap_issuesOf_perm
  items := by
    -- The heading stands above the issues of a severity only if there are some, as in a group.
    have hitems : ∀ g ∈ report.groups,
        [.verbatim "", .line (g.1.heading ++ " (" ++ toString g.2.length ++ ")")] ++
          g.2.flatMap Issue.listing = g.1.listing g.2 := by
      intro g hg
      unfold groups at hg
      have hissues : g.2.isEmpty = false := by simpa using (List.mem_filter.1 hg).2
      unfold Severity.listing
      rw [hissues]
      rfl
    rw [List.flatMap_congr hitems, report.flatMap_groups fun _ => rfl]
    rfl

/-- Every report is coherent, whatever results it holds. -/
theorem isCoherent : report.IsCoherent where
  severities := by
    unfold counts
    rw [List.map_map]
    exact List.map_id _
  total := report.sum_counts
  fails_iff := report.fails_iff_countFrom
  fails_mono threshold lower hlower hfails := by
    obtain ⟨issue, hissue, hrank⟩ := (report.fails_iff_exists threshold).1 hfails
    exact (report.fails_iff_exists lower).2 ⟨issue, hissue, Nat.le_trans hlower hrank⟩
  hasErrors := report.hasErrors_eq
  listing := ⟨report.groups, report.groups_listing⟩

end Report

end SchemaAtlas

import SchemaAtlas.Severity
import SchemaAtlas.Settings.Basic
import SchemaAtlas.Schema.Basic

/-!
# Findings about a schema

A rule finds `Issue`s, and a `Report` holds the issues of every rule that was run, in order.
`Report.count` tells how many issues there are of a severity, and `Report.fails` whether any is at
least as serious as a threshold.
-/

namespace SchemaAtlas

/-- One finding of a rule. -/
structure Issue where
  severity : Severity
  model : String
  message : String
  /-- The identifier of the rule. -/
  rule : String
  field : Option String := none
  suggestion : Option String := none
  /-- Line number, counted from 1. -/
  line : Option Nat := none
  deriving DecidableEq

/-- What one rule has found. -/
structure RuleResult where
  rule : String
  issues : List Issue
  deriving DecidableEq

/-- What all rules have found. -/
structure Report where
  results : List RuleResult
  deriving DecidableEq

/-- Where an issue is: the model, the field and the line. -/
def Issue.location (issue : Issue) : String :=
  issue.model ++
    (match issue.field with
      | none | some "" => ""
      | some name => "." ++ name) ++
    (match issue.line with
      | none | some 0 => ""
      | some line => " (line " ++ toString line ++ ")")

namespace Report

/-- All issues, rule by rule. -/
def issues (report : Report) : List Issue :=
  report.results.flatMap RuleResult.issues

/-- The issues of one severity. -/
def issuesOf (report : Report) (severity : Severity) : List Issue :=
  report.issues.filter fun issue => issue.severity == severity

/-- The number of issues of one severity. -/
def count (report : Report) (severity : Severity) : Nat :=
  report.issues.countP fun issue => issue.severity == severity

/-- The number of issues of every severity, the most serious first. -/
def counts (report : Report) : List (Severity × Nat) :=
  Severity.all.map fun severity => (severity, report.count severity)

/-- Some issue is an error. -/
def hasErrors (report : Report) : Bool :=
  report.issues.any fun issue => issue.severity == .error

/-- Some issue is at least as serious as the threshold. -/
def fails (report : Report) (threshold : Severity) : Bool :=
  report.issues.any fun issue => threshold.rank ≤ issue.severity.rank

/-- The rules that were run, in order. -/
def rules (report : Report) : List String :=
  report.results.map RuleResult.rule

theorem count_eq_length_issuesOf (report : Report) (severity : Severity) :
    report.count severity = (report.issuesOf severity).length := by
  simp [count, issuesOf, List.countP_eq_length_filter]

end Report

end SchemaAtlas

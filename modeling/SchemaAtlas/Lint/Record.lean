import SchemaAtlas.Data.Basic
import SchemaAtlas.Lint.Basic

/-!
# Findings as data

Issues and reports as values that can be written as JSON.
-/

namespace SchemaAtlas

/-- A text, or nothing. -/
def Data.ofText? : Option String → Data
  | some s => .text s
  | none => .null

/-- An issue as a value. -/
def Issue.toData (issue : Issue) : Data :=
  .record [("severity", .text issue.severity.name), ("model", .text issue.model),
    ("field", .ofText? issue.field), ("message", .text issue.message),
    ("suggestion", .ofText? issue.suggestion),
    ("line", match issue.line with
      | some line => .int line
      | none => .null),
    ("rule", .text issue.rule)]

/-- The entries of a report. -/
def Report.entries (report : Report) : Keyed Data :=
  [("issues", .list (report.issues.map Issue.toData)),
    ("counts", .record (report.counts.map fun c => (c.1.name, .int c.2))),
    ("rules", .list (report.rules.map .text))]

/-- A report as a value. -/
def Report.toData (report : Report) : Data :=
  .record report.entries

end SchemaAtlas

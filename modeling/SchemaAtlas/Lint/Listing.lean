import SchemaAtlas.Console
import SchemaAtlas.Lint.Basic
import SchemaAtlas.Text.Summary

/-!
# Reports on the console

`Report.listing` writes every issue of a report once, the most serious first, with a heading above
every severity that occurs; `Report.summary` is the line of counts below it.
-/

namespace SchemaAtlas

open Text

/-- The heading above the issues of a severity. -/
def Severity.heading : Severity → String
  | .error => styled "red" "Errors"
  | .warning => styled "yellow" "Warnings"
  | .info => styled "blue" "Info"

/-- The lines of an issue: where and what it is, and what can be done about it.  Brackets in them mean
nothing. -/
def Issue.listing (issue : Issue) : List ConsoleItem :=
  .verbatim ("  " ++ issue.location ++ ": " ++ issue.message) ::
    match issue.suggestion with
    | none | some "" => []
    | some suggestion => [.verbatim ("    → " ++ suggestion)]

/-- The lines of some issues of one severity, none if there are no issues. -/
def Severity.listing (severity : Severity) (issues : List Issue) : List ConsoleItem :=
  if issues.isEmpty then []
  else
    [.verbatim "", .line (severity.heading ++ " (" ++ toString issues.length ++ ")")] ++
      issues.flatMap Issue.listing

/-- The lines of all issues. -/
def Report.listing (report : Report) : List ConsoleItem :=
  Severity.all.flatMap fun severity => severity.listing (report.issuesOf severity)

/-- The number of issues of every severity in one line. -/
def Report.summary (report : Report) : String :=
  countSummary (report.counts.map fun c => (c.1.name, (c.2 : Int)))

end SchemaAtlas

import SchemaAtlas.Text.Separated

/-!
# Markdown

The few forms that documents are made of: code spans, links, and tables with one line for the
header, one for the rule below it and one for each row.
-/

namespace SchemaAtlas.Markdown

open Text

/-- A code span. -/
def code (s : String) : String :=
  "`" ++ s ++ "`"

/-- A link. -/
def link (label target : String) : String :=
  "[" ++ label ++ "](" ++ target ++ ")"

/-- A table. -/
structure Table where
  header : List String
  rows : List (List String)

/-- One row of a table. -/
def rowLine (cells : List String) : String :=
  "| " ++ joined " | " cells ++ " |"

/-- The rule below a header, one dash wider than each title at both sides. -/
def ruleLine (header : List String) : String :=
  let dashes := header.map fun title => String.ofList (List.replicate (title.length + 2) '-')
  "|" ++ joined "|" dashes ++ "|"

/-- The lines of a table. -/
def Table.lines (t : Table) : List String :=
  rowLine t.header :: ruleLine t.header :: t.rows.map rowLine

end SchemaAtlas.Markdown

/-!
# Severity of findings

Findings are errors, warnings or mere information.  `Severity.rank` orders them, and
`Severity.ofName?` reads the written names back.
-/

namespace SchemaAtlas

/-- How serious a finding is. -/
inductive Severity where
  | error
  | warning
  | info
  deriving DecidableEq, Inhabited

namespace Severity

/-- The severities, most serious first. -/
def all : List Severity :=
  [error, warning, info]

/-- The written name. -/
def name : Severity → String
  | error => "error"
  | warning => "warning"
  | info => "info"

/-- Higher is more serious. -/
def rank : Severity → Nat
  | error => 2
  | warning => 1
  | info => 0

/-- The severity of the given name. -/
def ofName? (s : String) : Option Severity :=
  all.find? fun severity => severity.name == s

theorem mem_all (s : Severity) : s ∈ all := by
  cases s <;> decide

theorem ofName?_name (s : Severity) : ofName? s.name = some s := by
  cases s <;> decide

end Severity

end SchemaAtlas

import SchemaAtlas.Keyed
import SchemaAtlas.Lint.Checks

/-!
# Rules and their registry

A `Rule` is a check with its description, and a `Registry` holds rules under their identifiers in
the order of registration.  `Registry.run` runs the rules that are not disabled; `builtinRegistry`
has the four rules of this library.
-/

namespace SchemaAtlas.Lint

/-- A check of a schema under some settings. -/
abbrev Check := LintSettings → Schema → Except CheckFault (List Issue)

/-- A rule.  Its severity is that of its most serious findings; without a check it finds nothing. -/
structure Rule where
  id : String
  name : String
  description : String
  severity : Severity := .warning
  check : Option Check := none

/-- The rule with the given check, or with the one that it has if none is given. -/
def Rule.checkedBy (rule : Rule) (check : Option Check) : Rule :=
  { rule with check := check.or rule.check }

/-- What a rule finds. -/
def Rule.run (rule : Rule) (settings : LintSettings) (s : Schema) :
    Except CheckFault (List Issue) :=
  match rule.check with
  | some check => check settings s
  | none => .ok []

/-- Rules in the order of registration. -/
structure Registry where
  rules : Keyed Rule := []

namespace Registry

/-- The registry with a further rule, which replaces one of the same identifier in place. -/
def register (registry : Registry) (rule : Rule) : Registry :=
  ⟨registry.rules.put rule.id rule⟩

/-- The registry without any rule. -/
def cleared (_ : Registry) : Registry :=
  {}

/-- The rule with the given identifier. -/
def get? (registry : Registry) (id : String) : Option Rule :=
  registry.rules.get? id

/-- All rules, in order. -/
def all (registry : Registry) : List Rule :=
  registry.rules.map Prod.snd

/-- The rules that are not disabled, in order. -/
def enabled (registry : Registry) (disabled : List String) : List Rule :=
  registry.all.filter fun rule => !disabled.contains rule.id

/-- The findings of every enabled rule. -/
def run (registry : Registry) (settings : LintSettings) (s : Schema) :
    Except CheckFault Report := do
  let results ← (registry.enabled settings.disabledRules).mapM fun rule => do
    let issues ← rule.run settings s
    return (⟨rule.id, issues⟩ : RuleResult)
  return ⟨results⟩

theorem get?_register (registry : Registry) (rule : Rule) (id : String) :
    (registry.register rule).get? id = if rule.id = id then some rule else registry.get? id :=
  Keyed.get?_put _ _ _ _

end Registry

/-- Foreign keys need an index. -/
def indexRule : Rule where
  id := "missing-fk-index"
  name := "Missing foreign-key index"
  description := "Foreign-key fields should lead an index or unique constraint."
  severity := .warning
  check := some fun _ s => .ok (s.models.flatMap missingIndexIssues)

/-- Some fields are usually unique. -/
def uniquenessRule : Rule where
  id := "potential-unique"
  name := "Potential missing uniqueness"
  description := "Fields named like email/slug/code are usually unique."
  severity := .info
  check := some fun settings s => .ok (s.models.flatMap (uniquenessIssues settings))

/-- Relations connect what exists. -/
def relationRule : Rule where
  id := "relation-integrity"
  name := "Relation referential integrity"
  description := "Relation targets and the fields a @relation names must exist."
  severity := .error
  check := some fun _ s => .ok (s.models.flatMap (relationIssues s))

/-- Models record creation and change. -/
def timestampRule : Rule where
  id := "missing-timestamps"
  name := "Missing timestamps"
  description := "Non-trivial models should carry created/updated timestamps."
  severity := .info
  check := some fun settings s => timestampIssues settings s.models

/-- The rules of this library. -/
def builtinRules : List Rule :=
  [indexRule, uniquenessRule, relationRule, timestampRule]

/-- The registry of the rules of this library. -/
def builtinRegistry : Registry :=
  builtinRules.foldl Registry.register {}

/-- The findings about a schema. -/
def validate (settings : LintSettings) (s : Schema) : Except CheckFault Report :=
  builtinRegistry.run settings s

/-- A schema of bare models and the names of enumerations. -/
def schemaOfParts (models : List Model) (enumerationNames : List String) : Schema :=
  ⟨models, enumerationNames.map fun name => ⟨name, []⟩⟩

end SchemaAtlas.Lint

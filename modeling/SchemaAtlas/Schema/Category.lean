import SchemaAtlas.Text.Lower
import SchemaAtlas.Text.Search
import SchemaAtlas.Text.Word

/-!
# Categories of models

A model belongs to a category by its name.  Each `CategoryRule` lists the cues of one category; the
rules overlap, and `Category.ofName` takes the first that fits, so their order in `categoryRules`
matters.  Names are compared in lower case.
-/

namespace SchemaAtlas

open Text

/-- Subject areas of a data model. -/
inductive Category where
  | core
  | auth
  | organization
  | costs
  | maintenance
  | tasks
  | sales
  | products
  | purchases
  | payroll
  | treasury
  | logistics
  | ai
  | automation
  | billing
  | portal
  | notifications
  | documents
  | workers
  | tax
  | tools
  | integrations
  | dashboard
  | ideas
  | other
  deriving DecidableEq, Inhabited

namespace Category

/-- Every category. -/
def all : List Category :=
  [core, auth, organization, costs, maintenance, tasks, sales, products, purchases, payroll,
    treasury, logistics, ai, automation, billing, portal, notifications, documents, workers, tax,
    tools, integrations, dashboard, ideas, other]

/-- The name that a category is shown under. -/
def label : Category → String
  | core => "Core"
  | auth => "Auth"
  | organization => "Organization"
  | costs => "Costs"
  | maintenance => "Maintenance"
  | tasks => "Tasks"
  | sales => "Sales"
  | products => "Products"
  | purchases => "Purchases"
  | payroll => "Payroll"
  | treasury => "Treasury"
  | logistics => "Logistics"
  | ai => "AI"
  | automation => "Automation"
  | billing => "Billing"
  | portal => "Portal"
  | notifications => "Notifications"
  | documents => "Documents"
  | workers => "Workers"
  | tax => "Tax"
  | tools => "Tools"
  | integrations => "Integrations"
  | dashboard => "Dashboard"
  | ideas => "Ideas"
  | other => "Other"

/-- The symbol in front of the name. -/
def icon : Category → String
  | core => "🏢"
  | auth => "🔐"
  | organization => "🏗️"
  | costs => "💰"
  | maintenance => "🔧"
  | tasks => "📋"
  | sales => "🛒"
  | products => "📦"
  | purchases => "🛍️"
  | payroll => "💵"
  | treasury => "🏦"
  | logistics => "🚚"
  | ai => "🤖"
  | automation => "⚙️"
  | billing => "💳"
  | portal => "🌐"
  | notifications => "🔔"
  | documents => "📄"
  | workers => "👷"
  | tax => "🧾"
  | tools => "🛠️"
  | integrations => "🔌"
  | dashboard => "📊"
  | ideas => "💡"
  | other => "📁"

/-- The category with the given label. -/
def ofLabel? (label : String) : Option Category :=
  all.find? fun c => c.label == label

/-- The symbol of the category with the given label; unknown labels share that of `other`. -/
def iconOfLabel (label : String) : String :=
  ((ofLabel? label).getD other).icon

theorem mem_all (c : Category) : c ∈ all := by
  cases c <;> decide

theorem label_injective {c d : Category} (h : c.label = d.label) : c = d := by
  revert h
  cases c <;> cases d <;> decide

end Category

/-- A feature of a name that speaks for a category. -/
inductive Cue where
  /-- The word occurs. -/
  | holds (word : String)
  /-- The name starts with the word. -/
  | starts (word : String)
  /-- The name starts with the word, and `next` does not follow. -/
  | startsBefore (word : String) (next : Char)
  /-- The name ends with the word. -/
  | ends (word : String)
  /-- The name is the word. -/
  | is (word : String)
  /-- The word occurs and is no part of a longer word. -/
  | apart (word : String)

/-- Nothing is left of a name but perhaps a line feed. -/
def atNameEnd (rest : List Char) : Bool :=
  rest == [] || rest == ['\n']

/-- The name, in lower case, has the feature. -/
def Cue.fits (name : List Char) : Cue → Bool
  | holds word => (afterFirst? word name).isSome
  | starts word => startsWith word name
  | startsBefore word next => (after? word name).any fun rest => rest.head? != some next
  | ends word => (first? (fun _ here => (after? word here).filter atNameEnd) name).isSome
  | is word => (after? word name).any atNameEnd
  | apart word =>
    let alone := fun before here =>
      if atBoundary before here.head? then
        (after? word here).filter fun rest => atBoundary word.toList.getLast? rest.head?
      else none
    (first? alone name).isSome

/-- The cues of a category, and the words that rule it out. -/
structure CategoryRule where
  category : Category
  cues : List Cue
  excluded : List Cue := []

/-- The name, in lower case, fits the rule. -/
def CategoryRule.fits (rule : CategoryRule) (name : List Char) : Bool :=
  rule.cues.any (Cue.fits name) && !rule.excluded.any (Cue.fits name)

open Category Cue in
/-- The rules in order of precedence. -/
def categoryRules : List CategoryRule :=
  [ { category := core
      cues := [is "company", starts "companysettings", starts "companymodule",
        starts "companyviewconfig", starts "companysettingscosting", starts "companytemplate"] },
    { category := auth
      cues := [is "user", starts "useroncompany", starts "userpermission", is "role",
        starts "rolepermission", starts "session"] },
    { category := organization
      cues := [is "area", is "sector", is "zone", is "plantzone", is "line"] },
    { category := costs
      cues := [holds "cost", holds "recipe", holds "input", holds "indirect",
        holds "monthlyproduction", holds "monthlyindirect", holds "productstandard",
        holds "productioncost", holds "productionmethod", holds "costsystem",
        holds "monthlycostconsolidation"]
      excluded := [holds "purchase", holds "maintenance"] },
    { category := maintenance
      cues := [holds "machine", holds "workstation", holds "component", holds "subcomponent",
        holds "failure", holds "symptom", holds "corrective", holds "checklist", holds "downtime",
        holds "workorder", holds "maintenance", holds "loto", holds "permit", holds "fmea",
        holds "quality", holds "sparepartreservation", holds "template", holds "solution",
        holds "rootcause", holds "activity"] },
    { category := tasks
      cues := [starts "task", starts "fixedtask", starts "fixedtaskexecution",
        starts "taskattachment", starts "taskcomment"] },
    { category := sales
      cues := [starts "sale", starts "quote", startsBefore "client" 'p', starts "invoice",
        starts "delivery", starts "remito", starts "acopio", starts "price", starts "discount",
        starts "load", starts "collection", starts "salesconfig", starts "salesprice",
        starts "salesinvoice", starts "salescredit"] },
    { category := products
      cues := [starts "product", starts "category"] },
    { category := purchases
      cues := [holds "purchase", holds "supplier", holds "goods", holds "warehouse",
        ends "creditdebitnote", holds "match", holds "sod", holds "stocktransfer",
        holds "stockadjust"] },
    { category := payroll
      cues := [holds "payroll", holds "salary", holds "agreement", holds "payrollunion",
        holds "worksector", holds "workposition", holds "holiday", holds "employee"] },
    { category := treasury
      cues := [holds "bank", holds "cash", holds "cheque", holds "treasury", holds "payment",
        holds "idempotency"] },
    { category := logistics
      cues := [holds "truck", holds "loadorder", holds "zone", holds "transport",
        holds "kilometraje", holds "unidadmovil"] },
    { category := ai
      cues := [holds "assistant", holds "embedding", apart "ai", starts "ai"] },
    { category := automation, cues := [holds "automation"] },
    { category := billing, cues := [holds "subscription", holds "billing", holds "plan"] },
    { category := portal, cues := [holds "portal", holds "clientportal", holds "clientcontact"] },
    { category := notifications
      cues := [holds "notification", holds "reminder", holds "outbox"] },
    { category := documents, cues := [holds "document", holds "attachment", holds "image"] },
    { category := workers, cues := [holds "worker", holds "skill", holds "certification"] },
    { category := tax, cues := [holds "tax", holds "control"] },
    { category := tools, cues := [holds "tool"] },
    { category := integrations, cues := [holds "discord"] },
    { category := dashboard
      cues := [holds "dashboard", holds "widget", holds "usercolorpreference",
        holds "userdashboardconfig"] },
    { category := ideas, cues := [holds "idea"] } ]

/-- The category of a model with the given name. -/
def Category.ofName (name : String) : Category :=
  let lowered := (lower name).toList
  match categoryRules.find? fun rule => rule.fits lowered with
  | some rule => rule.category
  | none => other

end SchemaAtlas

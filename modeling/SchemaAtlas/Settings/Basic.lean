import SchemaAtlas.Severity

/-!
# Settings

`Settings` are all that can be configured, in five sections with a default for every entry.
`UserSettings` are the few entries that a project's own file states without a section.
-/

namespace SchemaAtlas

/-- How important a log record is. -/
inductive LogLevel where
  | debug
  | info
  | warning
  | error
  | critical
  deriving DecidableEq, Inhabited

namespace LogLevel

/-- The levels, least important first. -/
def all : List LogLevel :=
  [debug, info, warning, error, critical]

/-- The name of a level in settings. -/
def name : LogLevel → String
  | debug => "DEBUG"
  | info => "INFO"
  | warning => "WARNING"
  | error => "ERROR"
  | critical => "CRITICAL"

/-- Higher is more important. -/
def rank : LogLevel → Nat
  | debug => 0
  | info => 1
  | warning => 2
  | error => 3
  | critical => 4

end LogLevel

/-- How log records are written. -/
inductive LogFormat where
  | json
  | console
  deriving DecidableEq, Inhabited

namespace LogFormat

/-- Both formats. -/
def all : List LogFormat :=
  [json, console]

/-- The name of a format in settings. -/
def name : LogFormat → String
  | json => "json"
  | console => "console"

end LogFormat

/-- Where log records go. -/
inductive Destination where
  | stderr
  | stdout
  | file (path : String)
  deriving DecidableEq, Inhabited

namespace Destination

/-- The written form of a destination. -/
def text : Destination → String
  | stderr => "stderr"
  | stdout => "stdout"
  | file path => path

/-- The destination is a stream of the terminal. -/
def isTerminal : Destination → Bool
  | file _ => false
  | _ => true

end Destination

/-- One output of the log.  Without a level of its own it takes that of the log. -/
structure LogOutput where
  format : LogFormat := .console
  destination : Destination := .stderr
  level : Option LogLevel := none
  deriving DecidableEq

/-- Settings of the log. -/
structure LogSettings where
  level : LogLevel := .info
  outputs : List LogOutput := [{}]
  deriving DecidableEq

/-- Where input and output are, seen from the root of the project. -/
structure PathSettings where
  schemaPath : String := "prisma/schema.prisma"
  docsDir : String := "docs/schema"
  typesPath : String := "types/prisma.ts"
  deriving DecidableEq

/-- A count that is at least one. -/
abbrev Limit := { n : Nat // 1 ≤ n }

/-- Settings of the documentation. -/
structure DocSettings where
  /-- Directory of the model pages. -/
  modelsDir : String := "models"
  /-- Most models that are drawn in one diagram. -/
  erdMaxModels : Limit := ⟨20, by decide⟩
  /-- Most fields that are drawn for a model on its own page. -/
  entityFieldLimit : Limit := ⟨15, by decide⟩
  /-- Fields that are always drawn in the overview, besides unique ones. -/
  erdKeyFields : List String := ["name", "status", "companyId"]
  /-- Most fields that are drawn for a model in the overview. -/
  erdKeyFieldLimit : Limit := ⟨4, by decide⟩
  deriving DecidableEq

/-- Settings of the validator. -/
structure LintSettings where
  /-- Names of fields that are usually unique. -/
  uniqueCandidates : List String := ["email", "slug", "code", "externalId", "documentNumber"]
  /-- Names of the fields that record creation and change. -/
  timestampFields : String × String := ("createdAt", "updatedAt")
  /-- Patterns for names of models that need no timestamps. -/
  joinTablePatterns : List String := ["^(RolePermission|UserPermission|UserOnCompany)$"]
  /-- Most fields that a model may have without timestamps. -/
  minFieldsForTimestamps : Int := 3
  /-- Least severity of a finding that fails a check. -/
  failOn : Severity := .error
  /-- Rules that are not run. -/
  disabledRules : List String := []
  deriving DecidableEq

/-- Settings of the type generator. -/
structure TypeSettings where
  /-- Module that the generated file takes helper types from. -/
  runtimeImport : String := "@prisma/client"
  /-- Default expressions that make an identifier generated. -/
  autoIdDefaults : List String := ["autoincrement()", "uuid()", "cuid()"]
  /-- Names of the fields that the database fills in. -/
  timestampFields : List String := ["createdAt", "updatedAt"]
  /-- Name of the generator in the header of its output. -/
  headerName : String := "schemaplane types"
  deriving DecidableEq

/-- All settings. -/
structure Settings where
  logging : LogSettings := {}
  paths : PathSettings := {}
  docs : DocSettings := {}
  lint : LintSettings := {}
  typegen : TypeSettings := {}
  deriving DecidableEq

/-- The settings that a project's own file states without a section. -/
structure UserSettings where
  schemaPath : String := "prisma/schema.prisma"
  docsDir : String := "docs/schema"
  typesPath : String := "types/prisma.ts"
  logLevel : LogLevel := .info
  deriving DecidableEq

end SchemaAtlas

import SchemaAtlas.Data.Literal

/-!
# Failures that are reported

A `Failure` has a code, whose hundreds tell settings from files, a message and details.  The
constructors below it are the failures that the library reports; `Failure.text` is the line that is
shown and `Failure.toData` the record of all parts.
-/

namespace SchemaAtlas

/-- The kind of a failure. -/
inductive FailureCode where
  | unreadableSettings
  | invalidSetting
  | missingSetting
  | missingSchema
  | unreadableSchema
  | failedWrite
  deriving DecidableEq

namespace FailureCode

/-- Every code. -/
def all : List FailureCode :=
  [unreadableSettings, invalidSetting, missingSetting, missingSchema, unreadableSchema, failedWrite]

/-- The number of a code. -/
def number : FailureCode → Nat
  | unreadableSettings => 2001
  | invalidSetting => 2002
  | missingSetting => 2003
  | missingSchema => 3001
  | unreadableSchema => 3002
  | failedWrite => 3003

/-- The name of a code. -/
def name : FailureCode → String
  | unreadableSettings => "CONFIG_PARSE_ERROR"
  | invalidSetting => "CONFIG_INVALID_VALUE"
  | missingSetting => "CONFIG_MISSING_REQUIRED"
  | missingSchema => "SOURCE_NOT_FOUND"
  | unreadableSchema => "SOURCE_UNREADABLE"
  | failedWrite => "OUTPUT_WRITE_FAILED"

/-- The code with the given number. -/
def ofNumber? (n : Int) : Option FailureCode :=
  all.find? fun code => (code.number : Int) == n

/-- The code is about settings and not about files. -/
def isAboutSettings (code : FailureCode) : Bool :=
  code.number < 3000

theorem ofNumber?_number (code : FailureCode) : ofNumber? code.number = some code := by
  cases code <;> decide

end FailureCode

/-- A failure that is reported. -/
structure Failure where
  code : FailureCode
  message : String
  /-- Another try may succeed. -/
  isRetryable : Bool := false
  details : Keyed Data := []

namespace Failure

/-- A settings file that cannot be read. -/
def unreadableSettings (path reason : String) : Failure where
  code := .unreadableSettings
  message := "Failed to parse config at " ++ path ++ ": " ++ reason
  details := [("path", .text path), ("reason", .text reason)]

/-- A setting with a value that it cannot have. -/
def invalidSetting (place : String) (value : Data) (reason : String) : Failure where
  code := .invalidSetting
  message := "Invalid value for '" ++ place ++ "': " ++ reason
  details := [("field", .text place), ("value", .text value.shown), ("reason", .text reason)]

/-- A setting that has to have a value. -/
def missingSetting (place : String) : Failure where
  code := .missingSetting
  message := "Missing required config field: " ++ place
  details := [("field", .text place)]

/-- A schema that does not exist. -/
def missingSchema (path : String) : Failure where
  code := .missingSchema
  message := "Schema not found at " ++ path
  details := [("path", .text path)]

/-- A schema that cannot be read. -/
def unreadableSchema (path reason : String) : Failure where
  code := .unreadableSchema
  message := "Cannot read schema at " ++ path ++ ": " ++ reason
  details := [("path", .text path), ("reason", .text reason)]

/-- A file that cannot be written. -/
def failedWrite (path reason : String) : Failure where
  code := .failedWrite
  message := "Cannot write " ++ path ++ ": " ++ reason
  isRetryable := true
  details := [("path", .text path), ("reason", .text reason)]

/-- The line that is shown. -/
def text (failure : Failure) : String :=
  "[" ++ toString failure.code.number ++ "] " ++ failure.code.name ++ ": " ++ failure.message

/-- The record of all parts. -/
def toData (failure : Failure) : Data :=
  .record [("code", .int failure.code.number), ("error", .text failure.code.name),
    ("message", .text failure.message), ("retryable", .bool failure.isRetryable),
    ("details", .record failure.details)]

end Failure

end SchemaAtlas

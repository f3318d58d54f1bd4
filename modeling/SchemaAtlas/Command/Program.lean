import SchemaAtlas.Command.Arguments
import SchemaAtlas.Data.JsonText
import SchemaAtlas.Host.Basic
import SchemaAtlas.Lint.Checks
import SchemaAtlas.Progress
import SchemaAtlas.Schema.Basic
import SchemaAtlas.Settings.Load
import SchemaAtlas.Text.Utf8

/-!
# Programs

A `Program` runs on a host and may come to a `Halt`: the command line was not understood, something
failed in a way that is reported, or an `Interruption` ends it that nothing deals with.
-/

namespace SchemaAtlas.Command

/-- What ends a program without a report of its own. -/
inductive Interruption where
  | unreadablePattern (fault : PatternFault)
  /-- The variables of a section cannot be read. -/
  | badVariable (sectionName : String)
  | improperValue (fault : Yaml.ScalarFault)
  | namelessSection
  | unwritableValue
  /-- Something in the settings is nested too deep to be followed. -/
  | tooDeep
  | homeless
  /-- A home is asked for by a name that has a null character. -/
  | nullName
  | file (fault : FileFault)
  | undecodable (fault : Text.Utf8Fault)
  | blankValue
  /-- The console has refused what was to be shown. -/
  | refused (fault : MarkupFault)
  deriving DecidableEq

/-- The wording of an interruption. -/
def Interruption.text : Interruption → String
  | .unreadablePattern fault =>
    "A pattern for the names of join tables cannot be read: " ++ fault.message
  | .badVariable name => "The environment variables of the section " ++ name ++ " cannot be read."
  | .improperValue fault => fault.message
  | .namelessSection => "keywords must be strings"
  | .unwritableValue =>
    "Exceeds the limit (" ++ toString Text.mostDigits ++
      " digits) for integer string conversion; use sys.set_int_max_str_digits() to increase the limit"
  | .tooDeep => "maximum recursion depth exceeded"
  | .homeless => "Could not determine home directory."
  | .nullName => "embedded null byte"
  | .file fault => fault.text
  | .undecodable fault => fault.text
  | .blankValue => "An enumeration has a blank value."
  | .refused fault => fault.message

/-- How a command is used. -/
structure Usage where
  /-- The words that name the command. -/
  command : String
  /-- What may follow them. -/
  parts : String
  deriving DecidableEq

/-- The line that says how a command is used. -/
def Usage.line (usage : Usage) : String :=
  "Usage: " ++ usage.command ++ " " ++ usage.parts

/-- Why a program has stopped. -/
inductive Halt where
  | misused (usage : Usage) (fault : ArgumentFault)
  | failed (message : String)
  | interrupted (cause : Interruption)
  deriving DecidableEq

/-- A program on a host. -/
abbrev Program (m : Type → Type) (α : Type) :=
  ExceptT Halt m α

/-- Prints a value as JSON. -/
def printJson {m : Type → Type} [Host m] (d : Data) : m Unit :=
  Host.print (d.toIndentedJson ++ "\n")

namespace Program

variable {m : Type → Type} [Monad m] {α β : Type}

/-- A result, or a halt for the fault. -/
def orHalt (halt : β → Halt) : Except β α → Program m α
  | .ok a => return a
  | .error fault => throw (halt fault)

/-- A result, or an interruption for the fault of a file. -/
def orFileFault (result : Except FileFault α) : Program m α :=
  orHalt (fun fault => .interrupted (.file fault)) result

/-- A result, or a failure that is reported. -/
def orFailure (result : Except Failure α) : Program m α :=
  orHalt (fun failure => .failed failure.text) result

/-- A path below the home directory, or an interruption. -/
def orHomeless (result : Except HomeFault Path) : Program m Path :=
  orHalt (fun
    | .unknownUser => .interrupted .homeless
    | .nullName => .interrupted .nullName) result

/-- Values of enumerations, or an interruption. -/
def orBlankValue (result : Except ValueFault α) : Program m α :=
  orHalt (fun
    | .blankValue => .interrupted .blankValue) result

/-- Something that is shown, or an interruption. -/
def orMarkupFault (result : Except MarkupFault α) : Program m α :=
  orHalt (fun fault => .interrupted (.refused fault)) result

/-- The end of a program that a failure of its steps is. -/
def orStepFailure : Option StepFailure → Program m Unit
  | none => return
  | some (.raised message) => throw (.failed message)
  | some (.refused fault) => throw (.interrupted (.refused fault))

/-- The result of checks, or an interruption. -/
def orPatternFault (result : Except Lint.CheckFault α) : Program m α :=
  orHalt (fun
    | .unreadablePattern fault => .interrupted (.unreadablePattern fault)) result

/-- Loaded settings, or the halt for what is wrong with them. -/
def orLoadFault (result : Except LoadFault α) : Program m α :=
  orHalt (fun
    | .failed failure => .failed failure.text
    | .badVariable name => .interrupted (.badVariable name)
    | .improperValue fault => .interrupted (.improperValue fault)
    | .namelessSection => .interrupted .namelessSection
    | .unwritableValue => .interrupted .unwritableValue
    | .tooDeep => .interrupted .tooDeep
    | .homeless => .interrupted .homeless) result

/-- Shows an item on the console. -/
def present [Host m] (item : ConsoleItem) : Program m Unit := do
  orMarkupFault (← Host.present (m := m) item)

/-- Shows a message on the console. -/
def tell [Host m] (message : String) (style : StatusStyle) (indent : Int) : Program m Unit := do
  orMarkupFault (← Step.tell (m := m) message style indent)

end Program

end SchemaAtlas.Command

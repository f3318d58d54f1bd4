import SchemaAtlas.Host.Basic

/-!
# Progress on the console

A run is a tree of `Step`s: messages, spinners and tasks around further steps, and actions that may
fail.  A task that is left shows one line with the time it took, whether its steps succeed or fail,
and passes a failure on; while a spinner turns on a terminal, the log keeps off it.  What is shown may
have marks in it that do not fit together, which is a failure as well.
-/

namespace SchemaAtlas

/-- How a message is marked. -/
inductive StatusStyle where
  | success
  | error
  | warning
  | info
  | plain
  deriving DecidableEq

namespace StatusStyle

/-- The mark in front of a message. -/
def mark : StatusStyle → String
  | success => styled "green" "✓" ++ " "
  | error => styled "red" "✗" ++ " "
  | warning => styled "yellow" "!" ++ " "
  | info => "  "
  | plain => ""

/-- The name of a style. -/
def name : StatusStyle → String
  | success => "success"
  | error => "error"
  | warning => "warning"
  | info => "info"
  | plain => "none"

/-- The style of the given name; without one of these names nothing is marked. -/
def ofName (s : String) : StatusStyle :=
  (([success, error, warning, info].find? fun style => style.name == s)).getD plain

end StatusStyle

/-- Blanks in front of a line; a negative number counts as zero. -/
def padding (indent : Int) : String :=
  .ofList (List.replicate indent.toNat ' ')

/-- A message as it is shown. -/
def statusLine (message : String) (style : StatusStyle) (indent : Int) : String :=
  padding indent ++ style.mark ++ message

/-- What leaves a step that fails. -/
inductive StepFailure where
  | raised (message : String)
  /-- The console has refused what was to be shown. -/
  | refused (fault : MarkupFault)
  deriving DecidableEq

/-- The text of a failure. -/
def StepFailure.text : StepFailure → String
  | raised message => message
  | refused fault => fault.message

/-- A part of a run, where `α` are the actions. -/
inductive Step (α : Type) where
  | status (message : String) (style : StatusStyle) (indent : Int)
  | present (item : ConsoleItem)
  | spinner (message : String) (indent : Int) (body : List (Step α))
  | task (name : String) (body : List (Step α))
  | suppress (body : List (Step α))
  | fail (message : String)
  | act (action : α)
  /-- A failure of the body ends here; `caught` is done about it. -/
  | attempt (caught : StepFailure → α) (body : List (Step α))

namespace Step

variable {m : Type → Type} [Monad m] [Host m] {α : Type}

/-- A record of this module. -/
def note (level : LogLevel) (event : String) (fields : Keyed Data) : m Unit :=
  Host.record (LogRecord.named (some "progress") ⟨level, event, fields⟩)

/-- Shows a message. -/
def tell (message : String) (style : StatusStyle) (indent : Int) : m (Except MarkupFault Unit) := do
  match ← Host.present (.line (statusLine message style indent)) with
  | .error fault => return .error fault
  | .ok () =>
    note .debug "status" [("message", .text message), ("style", .text style.name)]
    return .ok ()

/-- The line of a task that has succeeded. -/
def doneMessage (name : String) (elapsed : Binary64) : String :=
  name ++ " (" ++ elapsed.fixedOne ++ "s)"

/-- The line of a task that has failed. -/
def failedMessage (name message : String) : String :=
  name ++ " failed: " ++ message

/-- Shows that a task has failed.  If the console refuses the line, this is the failure that leaves the
task. -/
def concludeFailed (name : String) (start : Binary64) (failure : StepFailure) :
    m (Option StepFailure) := do
  let elapsed := (← Host.clock).sub start
  match ← tell (failedMessage name failure.text) .error 0 with
  | .error fault => return some (.refused fault)
  | .ok () =>
    note .error "task_failed"
      [("task", .text name), ("elapsed_s", .real elapsed), ("error", .text failure.text)]
    return some failure

/-- Shows how a task has ended.  A task also fails if the console refuses the line of its success. -/
def conclude (name : String) (start : Binary64) : Option StepFailure → m (Option StepFailure)
  | none => do
    let elapsed := (← Host.clock).sub start
    match ← tell (doneMessage name elapsed) .success 0 with
    | .error fault => concludeFailed name start (.refused fault)
    | .ok () =>
      note .debug "task_done" [("task", .text name), ("elapsed_s", .real elapsed)]
      return none
  | some failure => concludeFailed name start failure

/-- The failure of something that was to be shown. -/
def refusal? : Except MarkupFault Unit → Option StepFailure
  | .ok () => none
  | .error fault => some (.refused fault)

mutual

/-- Runs a step; the result is a failure that leaves it. -/
def run (perform : α → m (Option StepFailure)) : Step α → m (Option StepFailure)
  | status message style indent => do
    return refusal? (← tell message style indent)
  | present item => do
    return refusal? (← Host.present item)
  | spinner message indent body => do
    if ← Host.isInteractive then
      Host.suppress true
      let shown ← Host.present (.live (padding indent ++ styled "cyan" message))
      let result ← match shown with
        | .ok () => runAll perform body
        | .error fault => pure (some (.refused fault))
      Host.suppress false
      return result
    else
      match ← Host.present (.line (padding indent ++ message ++ "...")) with
      | .ok () => runAll perform body
      | .error fault => return some (.refused fault)
  | task name body => do
    note .debug "task_start" [("task", .text name)]
    let start ← Host.clock
    let result ← runAll perform body
    conclude name start result
  | suppress body => do
    Host.suppress true
    let result ← runAll perform body
    Host.suppress false
    return result
  | fail message => return some (.raised message)
  | act action => perform action
  | attempt caught body => do
    match ← runAll perform body with
    | some failure => perform (caught failure)
    | none => return none

/-- Runs steps in order, up to a failure. -/
def runAll (perform : α → m (Option StepFailure)) : List (Step α) → m (Option StepFailure)
  | [] => return none
  | step :: rest => do
    match ← run perform step with
    | some failure => return some failure
    | none => runAll perform rest

end

end Step

end SchemaAtlas

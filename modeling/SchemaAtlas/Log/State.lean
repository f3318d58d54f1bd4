import SchemaAtlas.Log.Record
import SchemaAtlas.Settings.Reading

/-!
# The state of the log

A `LogState` holds the settings of the log, the run that records belong to, and whether the terminal
is suppressed because something else draws on it.  `LogState.deliveries` says which lines a record
becomes and where they go, `LogState.lastResort` what happens to records for which there is no output
at all, and a `LogSession` is what a sequence of `LogCommand`s has written.
-/

namespace SchemaAtlas

/-- What decides where records go. -/
structure LogState where
  settings : Option LogSettings := none
  /-- The run that records belong to. -/
  run : Option String := none
  /-- Nothing is written to the terminal. -/
  isSuppressed : Bool := false

/-- A line that goes somewhere. -/
structure Delivery where
  destination : Destination
  line : String
  deriving DecidableEq

namespace LogState

/-- A record of the given level is written to an output. -/
def accepts (state : LogState) (settings : LogSettings) (level : LogLevel) (output : LogOutput) :
    Bool :=
  settings.level.rank ≤ level.rank && (output.level.getD settings.level).rank ≤ level.rank &&
    !(output.destination.isTerminal && state.isSuppressed)

/-- The lines that a record becomes, output by output. -/
def deliveries (state : LogState) (time : String) (record : LogRecord) : List Delivery :=
  match state.settings with
  | none => []
  | some settings =>
    (settings.outputs.filter (state.accepts settings record.level)).map fun output =>
      ⟨output.destination, record.line output.format ⟨time, state.run⟩⟩

/-- Without any output, a record from a warning up goes to the error stream as the given line, whether
or not the terminal is suppressed. -/
def lastResort (state : LogState) (level : LogLevel) (line : String) : List Delivery :=
  match state.settings with
  | none => []
  | some settings =>
    if settings.outputs.isEmpty && settings.level.rank ≤ level.rank &&
        LogLevel.warning.rank ≤ level.rank then [⟨.stderr, line⟩]
    else []

/-- All lines that a record becomes. -/
def linesOf (state : LogState) (time : String) (record : LogRecord) : List Delivery :=
  state.deliveries time record ++
    state.lastResort record.level (record.bareLine ⟨time, state.run⟩)

/-- All lines that a message becomes which does not come as a record of its own. -/
def linesOfMessage (state : LogState) (time : String) (level : LogLevel) (message : String) :
    List Delivery :=
  state.deliveries time ⟨level, message, []⟩ ++ state.lastResort level message

end LogState

/-- The files among the outputs, in order. -/
def LogSettings.files (settings : LogSettings) : List String :=
  settings.outputs.filterMap fun output =>
    match output.destination with
    | .file path => some path
    | _ => none

/-- The file that people are pointed to after a failure. -/
def LogSettings.file? (settings : LogSettings) : Option String :=
  settings.files.head?

/-- The settings of a log with a single output on the error stream, given by the name of its level
and by its format. -/
def readSimpleLog (level : String) (format : LogFormat) : Checked LogSettings :=
  (readLevel (.text level)).under "level" |>.map fun level => ⟨level, [{ format := format }]⟩

/-- Something that happens to the log. -/
inductive LogCommand where
  | configure (settings : LogSettings)
  /-- A run begins.  Its name is given to it or made up for it, and is not empty. -/
  | beginRun (run : String)
  | endRun
  | suppress (on : Bool)
  | write (time : String) (record : LogRecord)
  /-- A message of a library that knows nothing of records. -/
  | relay (time : String) (level : LogLevel) (message : String)

/-- What has happened to the log. -/
structure LogSession where
  state : LogState := {}
  /-- The files that have been opened, in order. -/
  opened : List String := []
  written : List Delivery := []

namespace LogSession

/-- The session after a command. -/
def step (session : LogSession) : LogCommand → LogSession
  | .configure settings =>
    { session with
      state := { session.state with settings := some settings }
      opened := session.opened ++ settings.files }
  | .beginRun run => { session with state := { session.state with run := some run } }
  | .endRun => { session with state := { session.state with run := none } }
  | .suppress on => { session with state := { session.state with isSuppressed := on } }
  | .write time record =>
    { session with written := session.written ++ session.state.linesOf time record }
  | .relay time level message =>
    { session with written := session.written ++ session.state.linesOfMessage time level message }

/-- The lines that went to a destination, in order. -/
def linesTo (session : LogSession) (destination : Destination) : List String :=
  (session.written.filter fun d => d.destination == destination).map Delivery.line

/-- The file that people are pointed to after a failure. -/
def file? (session : LogSession) : Option String :=
  session.state.settings.bind LogSettings.file?

theorem linesTo_append (session : LogSession) (destination : Destination) (more : List Delivery) :
    ({ session with written := session.written ++ more } : LogSession).linesTo destination =
      session.linesTo destination ++
        (more.filter fun d => d.destination == destination).map Delivery.line := by
  simp [linesTo]

end LogSession

end SchemaAtlas

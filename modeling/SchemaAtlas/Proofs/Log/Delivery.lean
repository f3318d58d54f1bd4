import SchemaAtlas.Log.State
import SchemaAtlas.Proofs.Keyed

/-!
# Which lines a log has written

What is in force when a record is written is told by the commands that have gone before: the settings
are those of the last configuration (`settingsAfter`), and run and suppression are what was last said
about them (`runAfter`, `isSuppressedAfter`).  An output `Takes` a record that no level and no
suppression keeps off.  Settings without outputs leave a record that is important enough `Unclaimed`; it
goes to the error stream.

Main statement: as long as no other settings come into force, a destination gets, behind the lines that
it has, one line for each record and each output that takes it, in the order of the records, and no
other line but those of unclaimed records (`linesTo_after_append`).
-/

namespace SchemaAtlas

/-! ### What is in force -/

namespace LogCommand

/-- The settings that the command brings into force. -/
def settings? : LogCommand → Option LogSettings
  | configure settings => some settings
  | _ => none

/-- What the command says about the run: which one it is, or that there is none. -/
def run? : LogCommand → Option (Option String)
  | beginRun run => some (some run)
  | endRun => some none
  | _ => none

/-- What the command says about the suppression of the terminal. -/
def suppression? : LogCommand → Option Bool
  | suppress on => some on
  | _ => none

end LogCommand

/-- The settings of the last configuration. -/
def settingsAfter (commands : List LogCommand) : Option LogSettings :=
  (commands.filterMap LogCommand.settings?).getLast?

/-- The run that was begun last, unless it has ended. -/
def runAfter (commands : List LogCommand) : Option String :=
  (commands.filterMap LogCommand.run?).getLast?.join

/-- The terminal was last suppressed and not released. -/
def isSuppressedAfter (commands : List LogCommand) : Bool :=
  (commands.filterMap LogCommand.suppression?).getLast?.getD false

/-- The output takes records of a level: neither that of the log nor its own is above it, and it is no
suppressed terminal. -/
structure LogOutput.Takes (settings : LogSettings) (isSuppressed : Bool) (level : LogLevel)
    (output : LogOutput) : Prop where
  log : settings.level.rank ≤ level.rank
  own : (output.level.getD settings.level).rank ≤ level.rank
  shown : ¬ (output.destination.isTerminal ∧ isSuppressed)

theorem LogOutput.takes_iff {settings : LogSettings} {isSuppressed : Bool} {level : LogLevel}
    {output : LogOutput} : output.Takes settings isSuppressed level ↔
      settings.level.rank ≤ level.rank ∧ (output.level.getD settings.level).rank ≤ level.rank ∧
        ¬ (output.destination.isTerminal ∧ isSuppressed) :=
  ⟨fun h => ⟨h.log, h.own, h.shown⟩, fun ⟨hlog, hown, hshown⟩ => ⟨hlog, hown, hshown⟩⟩

instance (settings : LogSettings) (isSuppressed : Bool) (level : LogLevel) (output : LogOutput) :
    Decidable (output.Takes settings isSuppressed level) :=
  decidable_of_iff _ LogOutput.takes_iff.symm

/-- There is no output for a record that the log lets through, and the record is a warning at least. -/
structure LogSettings.Unclaimed (settings : LogSettings) (level : LogLevel) : Prop where
  none : settings.outputs = []
  log : settings.level.rank ≤ level.rank
  warning : LogLevel.warning.rank ≤ level.rank

theorem LogSettings.unclaimed_iff {settings : LogSettings} {level : LogLevel} :
    settings.Unclaimed level ↔ settings.outputs = [] ∧ settings.level.rank ≤ level.rank ∧
      LogLevel.warning.rank ≤ level.rank :=
  ⟨fun h => ⟨h.none, h.log, h.warning⟩, fun ⟨hnone, hlog, hwarning⟩ => ⟨hnone, hlog, hwarning⟩⟩

instance (settings : LogSettings) (level : LogLevel) : Decidable (settings.Unclaimed level) :=
  decidable_of_iff _ LogSettings.unclaimed_iff.symm

/-- The lines of a record at a destination, one for each output that takes it. -/
def LogRecord.linesTo (settings : LogSettings) (stamp : LogStamp) (isSuppressed : Bool)
    (destination : Destination) (record : LogRecord) : List String :=
  (settings.outputs.filter fun output =>
    output.destination = destination ∧ output.Takes settings isSuppressed record.level).map
      fun output => record.line output.format stamp

/-- The line of an unclaimed record, which only the error stream gets. -/
def LogSettings.unclaimedLines (settings : LogSettings) (level : LogLevel) (destination : Destination)
    (line : String) : List String :=
  if settings.Unclaimed level ∧ destination = .stderr then [line] else []

/-- The lines that a command writes to a destination, with what is in force. -/
def LogCommand.linesTo (settings : LogSettings) (run : Option String) (isSuppressed : Bool)
    (destination : Destination) : LogCommand → List String
  | write time record =>
    record.linesTo settings ⟨time, run⟩ isSuppressed destination ++
      settings.unclaimedLines record.level destination (record.bareLine ⟨time, run⟩)
  | relay time level message =>
    (LogRecord.mk level message []).linesTo settings ⟨time, run⟩ isSuppressed destination ++
      settings.unclaimedLines level destination message
  | _ => []

/-- Every command together with those before it, of which `past` come first. -/
def withPast (past : List LogCommand) : List LogCommand → List (List LogCommand × LogCommand)
  | [] => []
  | command :: rest => (past, command) :: withPast (past ++ [command]) rest

namespace LogSession

/-- The session after some commands. -/
def after (commands : List LogCommand) : LogSession :=
  commands.foldl step {}

/-! ### One command -/

theorem after_concat (commands : List LogCommand) (command : LogCommand) :
    after (commands ++ [command]) = (after commands).step command :=
  List.foldl_concat _ _ _ _

/-- What is in force is what the commands have said last. -/
theorem state_after (commands : List LogCommand) : (after commands).state =
    ⟨settingsAfter commands, runAfter commands, isSuppressedAfter commands⟩ := by
  induction commands using List.reverseRecOn with
  | nil => rfl
  | append_singleton commands command ih =>
    rw [after_concat]
    cases command <;>
      simp [step, ih, settingsAfter, runAfter, isSuppressedAfter, LogCommand.settings?,
        LogCommand.run?, LogCommand.suppression?]

theorem accepts_iff {state : LogState} {settings : LogSettings} {level : LogLevel}
    {output : LogOutput} :
    state.accepts settings level output ↔ output.Takes settings state.isSuppressed level := by
  rw [LogOutput.takes_iff, LogState.accepts]
  cases state.isSuppressed <;> simp [and_assoc]

theorem lines_deliveries {state : LogState} {settings : LogSettings}
    (hsettings : state.settings = some settings) (time : String) (record : LogRecord)
    (destination : Destination) :
    ((state.deliveries time record).filter fun d => d.destination == destination).map
      Delivery.line = record.linesTo settings ⟨time, state.run⟩ state.isSuppressed destination := by
  have haccepts : state.accepts settings record.level = fun output =>
      decide (output.Takes settings state.isSuppressed record.level) := by
    funext output
    rw [Bool.eq_iff_iff, accepts_iff, decide_eq_true_iff]
  simp [LogState.deliveries, hsettings, LogRecord.linesTo, List.filter_map, haccepts,
    Function.comp_def, beq_eq_decide]

theorem lines_lastResort {state : LogState} {settings : LogSettings}
    (hsettings : state.settings = some settings) (level : LogLevel) (line : String)
    (destination : Destination) :
    ((state.lastResort level line).filter fun d => d.destination == destination).map
      Delivery.line = settings.unclaimedLines level destination line := by
  have hunclaimed : (settings.outputs.isEmpty && decide (settings.level.rank ≤ level.rank) &&
      decide (LogLevel.warning.rank ≤ level.rank)) = decide (settings.Unclaimed level) := by
    rw [Bool.eq_iff_iff, decide_eq_true_iff, LogSettings.unclaimed_iff]
    simp [and_assoc]
  simp only [LogState.lastResort, hsettings, hunclaimed, LogSettings.unclaimedLines,
    decide_eq_true_eq]
  by_cases hlevel : settings.Unclaimed level
  · by_cases hdestination : destination = .stderr <;>
      simp [hlevel, hdestination, eq_comm (a := Destination.stderr)]
  · simp [hlevel]

/-- A command adds its lines behind those that are there. -/
theorem linesTo_step (session : LogSession) (command : LogCommand) (destination : Destination) :
    (session.step command).linesTo destination = session.linesTo destination ++
      match session.state.settings with
      | some settings =>
        command.linesTo settings session.state.run session.state.isSuppressed destination
      | none => [] := by
  cases hsettings : session.state.settings with
  | none =>
    cases command <;>
      simp [step, linesTo, LogState.linesOf, LogState.linesOfMessage, LogState.deliveries,
        LogState.lastResort, hsettings]
  | some settings =>
    cases command with
    | write time record =>
      rw [step, linesTo_append, LogState.linesOf, List.filter_append, List.map_append,
        lines_deliveries hsettings, lines_lastResort hsettings]
      rfl
    | relay time level message =>
      rw [step, linesTo_append, LogState.linesOfMessage, List.filter_append, List.map_append,
        lines_deliveries hsettings, lines_lastResort hsettings]
      rfl
    | _ => simp [step, linesTo, LogCommand.linesTo]

/-! ### All commands -/

theorem settingsAfter_append {commands more : List LogCommand}
    (h : ∀ command ∈ more, command.settings? = none) :
    settingsAfter (commands ++ more) = settingsAfter commands := by
  rw [settingsAfter, List.filterMap_append, List.filterMap_eq_nil_iff.2 h, List.append_nil]
  rfl

/-- As long as no other settings come into force, a destination gets the lines of one command after
another. -/
theorem linesTo_after_append {past since : List LogCommand} {settings : LogSettings}
    (hsettings : settingsAfter past = some settings)
    (hsince : ∀ command ∈ since, command.settings? = none) (destination : Destination) :
    (after (past ++ since)).linesTo destination = (after past).linesTo destination ++
      (withPast past since).flatMap fun p =>
        p.2.linesTo settings (runAfter p.1) (isSuppressedAfter p.1) destination := by
  induction since generalizing past with
  | nil => simp [withPast]
  | cons command since ih =>
    obtain ⟨hcommand, hsince⟩ := List.forall_mem_cons.1 hsince
    have hsettings' : settingsAfter (past ++ [command]) = some settings := by
      rw [settingsAfter_append (by simpa using hcommand), hsettings]
    have hlines : (after (past ++ [command])).linesTo destination =
        (after past).linesTo destination ++
          command.linesTo settings (runAfter past) (isSuppressedAfter past) destination := by
      rw [after_concat, linesTo_step, state_after, hsettings]
    rw [List.append_cons, ih hsettings' hsince, hlines, withPast, List.flatMap_cons,
      List.append_assoc]

/-- Users are pointed to the first destination that is no terminal. -/
theorem file?_eq (settings : LogSettings) :
    settings.file? = (settings.outputs.find? fun output => !output.destination.isTerminal).map
      fun output => output.destination.text := by
  rw [LogSettings.file?, LogSettings.files]
  induction settings.outputs with
  | nil => rfl
  | cons output outputs ih =>
    cases hdestination : output.destination <;>
      simp [hdestination, Destination.isTerminal, Destination.text, ih]

end LogSession

/-- A record names the run that it belongs to, whatever it says of itself. -/
theorem LogRecord.get?_entries_run (record : LogRecord) (stamp : LogStamp) :
    Keyed.get? (record.entries stamp) "run_id" =
      (stamp.run.map Data.text).or (Keyed.get? (.ofList record.fields) "run_id") := by
  rw [entries, Keyed.get?_ofList, Keyed.get?_ofList, List.reverse_append, Keyed.get?_append]
  cases stamp.run <;> rfl

end SchemaAtlas

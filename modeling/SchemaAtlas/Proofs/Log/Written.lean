import SchemaAtlas.Proofs.Log.Delivery
import SchemaAtlas.Proofs.Log.JsonLines
import SchemaAtlas.Proofs.Log.Opening

/-!
# What a log writes on a machine

The commands of a log are done on a machine by `LogCommand.perform`, where settings take effect when
their files have been opened.  Each step keeps the machine in line with the session
(`IsWritten.step`): streams and files hold what they held at the start and, behind it, what has been
written to them.

Main statement: from a configuration on, and up to the next one, every record becomes one line for
each output that takes it (`linesTo_after_configure`).
-/

namespace SchemaAtlas

open Command Text

/-- Does on a machine what happens to the log. -/
def LogCommand.perform : LogCommand → Program (StateM Machine) Unit
  | configure settings => applyLogSettings settings
  | beginRun run => do
    let state ← Host.logState (m := StateM Machine)
    Host.setLogState (m := StateM Machine) { state with run := some run }
  | endRun => do
    let state ← Host.logState (m := StateM Machine)
    Host.setLogState (m := StateM Machine) { state with run := none }
  | suppress on => Host.suppress (m := StateM Machine) on
  | write time record => do
    modifyThe Machine fun machine => { machine with time := time }
    Host.record (m := StateM Machine) record
  | relay time level message => do
    modifyThe Machine fun machine => { machine with time := time }
    Host.relay (m := StateM Machine) level message

/-- What a delivery adds to a file. -/
def Delivery.octets (d : Delivery) : List UInt8 :=
  (d.line ++ "\n").toUTF8.toList

/-- The place of the file that a delivery goes to, seen from a directory.  Paths of different forms can
lead to one file. -/
def Delivery.place? (base : Path) (d : Delivery) : Option (List String) :=
  match d.destination with
  | .file file => some (base.join (.ofText file)).place
  | _ => none

/-- What deliveries add to the file at a place. -/
def octetsAt (base : Path) (written : List Delivery) (place : List String) : List UInt8 :=
  (written.filter fun d => d.place? base = some place).flatMap Delivery.octets

theorem octetsAt_concat (base : Path) (written : List Delivery) (d : Delivery)
    (place : List String) : octetsAt base (written ++ [d]) place =
      octetsAt base written place ++ if d.place? base = some place then d.octets else [] := by
  rw [octetsAt, List.filter_append, List.flatMap_append]
  by_cases h : d.place? base = some place <;> simp [h, octetsAt]

namespace LogSession

theorem linesTo_concat (session : LogSession) (d : Delivery) (destination : Destination) :
    ({ session with written := session.written ++ [d] } : LogSession).linesTo destination =
      session.linesTo destination ++ if d.destination = destination then [d.line] else [] := by
  rw [linesTo_append]
  by_cases h : d.destination = destination <;> simp [h]

/-- The machine shows what the session has written, behind all that was there before. -/
structure IsWritten (session : LogSession) (before after : Machine) : Prop where
  log : after.log = session.state
  base : after.workingDirectory = before.workingDirectory
  errors : after.errors = before.errors ++ session.linesTo .stderr
  output : after.output =
    (session.linesTo .stdout).foldl (fun output line => output ++ line ++ "\n") before.output
  held : ∀ place, after.tree.held place =
    before.tree.held place ++ octetsAt before.workingDirectory session.written place
  opened : ∀ file ∈ session.opened, after.HasFile (.ofText file)

namespace IsWritten

variable {session : LogSession} {before machine after : Machine}

theorem deliver {d : Delivery} (h : session.IsWritten before machine)
    (hd : ∀ file, d.destination = .file file → file ∈ session.opened) :
    ({ session with written := session.written ++ [d] } : LogSession).IsWritten before
      ((Machine.deliver d).run machine).2 := by
  obtain ⟨destination, line⟩ := d
  cases destination with
  | stdout =>
    refine ⟨h.log, h.base, ?_, ?_, fun place => ?_, h.opened⟩
    · rw [linesTo_concat, if_neg nofun, List.append_nil]
      exact h.errors
    · rw [linesTo_concat, if_pos rfl, List.foldl_concat, ← h.output]
      rfl
    · rw [octetsAt_concat, if_neg nofun, List.append_nil]
      exact h.held place
  | stderr =>
    refine ⟨h.log, h.base, ?_, ?_, fun place => ?_, h.opened⟩
    · rw [linesTo_concat, if_pos rfl, ← List.append_assoc, ← h.errors]
      rfl
    · rw [linesTo_concat, if_neg nofun, List.append_nil]
      exact h.output
    · rw [octetsAt_concat, if_neg nofun, List.append_nil]
      exact h.held place
  | file file =>
    have hfile := h.opened file (hd file rfl)
    obtain ⟨tree, htree⟩ := hfile.exists_write fun content =>
      content ++ Delivery.octets ⟨.file file, line⟩
    have hrun : ((Machine.deliver ⟨.file file, line⟩).run machine).2 =
        { machine with tree := tree } := by
      have hchange := Machine.run_change (.ofText file) (fun tree path => tree.write path
        fun content => content ++ Delivery.octets ⟨.file file, line⟩) machine
      rw [htree] at hchange
      exact congrArg Prod.snd hchange
    rw [hrun]
    refine ⟨h.log, h.base, ?_, ?_, fun place => ?_, fun other hother => ?_⟩
    · rw [linesTo_concat, if_neg nofun, List.append_nil]
      exact h.errors
    · rw [linesTo_concat, if_neg nofun, List.append_nil]
      exact h.output
    · rw [FileTree.held_write htree, octetsAt_concat, ← List.append_assoc, ← h.held place]
      have hplace : Delivery.place? before.workingDirectory ⟨.file file, line⟩ =
          some (machine.absolute (.ofText file)).place := by
        rw [Machine.absolute, h.base]
        rfl
      rw [hplace]
      by_cases hat : (machine.absolute (.ofText file)).place = place <;> simp [hat]
    · exact (FileTree.grows_write htree).isFile (h.opened other hother)

theorem deliveries {ds : List Delivery} (h : session.IsWritten before machine)
    (hds : ∀ d ∈ ds, ∀ file, d.destination = .file file → file ∈ session.opened) :
    ({ session with written := session.written ++ ds } : LogSession).IsWritten before
      ((ds.forM Machine.deliver).run machine).2 := by
  induction ds generalizing session machine with
  | nil =>
    rw [List.append_nil]
    exact h
  | cons d ds ih =>
    obtain ⟨hd, hds⟩ := List.forall_mem_cons.1 hds
    have hrest := ih (h.deliver hd) hds
    rw [List.append_assoc] at hrest
    exact hrest

end IsWritten

/-- The files of the settings that are in force have been opened. -/
def HasOpened (session : LogSession) : Prop :=
  ∀ settings, session.state.settings = some settings → ∀ file ∈ settings.files,
    file ∈ session.opened

theorem HasOpened.step {session : LogSession} (h : session.HasOpened) (command : LogCommand) :
    (session.step command).HasOpened := by
  cases command with
  | configure settings =>
    intro inForce hinForce file hfile
    obtain rfl : settings = inForce := Option.some.inj hinForce
    exact List.mem_append_right _ hfile
  | _ => exact h

theorem HasOpened.deliveries {session : LogSession} (h : session.HasOpened) {time : String}
    {record : LogRecord} : ∀ d ∈ session.state.deliveries time record, ∀ file,
      d.destination = .file file → file ∈ session.opened := by
  intro d hd file hfile
  rw [LogState.deliveries] at hd
  cases hsettings : session.state.settings with
  | none => simp [hsettings] at hd
  | some settings =>
    rw [hsettings] at hd
    obtain ⟨output, houtput, rfl⟩ := List.mem_map.1 hd
    refine h settings hsettings file (List.mem_filterMap.2 ⟨output, ?_, ?_⟩)
    · exact List.mem_of_mem_filter houtput
    · rw [show output.destination = .file file from hfile]

theorem destination_of_mem_lastResort {state : LogState} {level : LogLevel} {line : String}
    {d : Delivery} (hd : d ∈ state.lastResort level line) : d.destination = .stderr := by
  rw [LogState.lastResort] at hd
  split at hd
  · exact absurd hd List.not_mem_nil
  · split at hd
    · rw [List.mem_singleton.1 hd]
    · exact absurd hd List.not_mem_nil

/-- Behind what outputs are given, only the error stream can get a line. -/
theorem HasOpened.lines {session : LogSession} (h : session.HasOpened) {time : String}
    {record : LogRecord} {level : LogLevel} {line : String} :
    ∀ d ∈ session.state.deliveries time record ++ session.state.lastResort level line, ∀ file,
      d.destination = .file file → file ∈ session.opened := by
  intro d hd file hfile
  obtain hd | hd := List.mem_append.1 hd
  · exact h.deliveries d hd file hfile
  · rw [destination_of_mem_lastResort hd] at hfile
    exact nomatch hfile

namespace IsWritten

variable {session : LogSession} {before machine after : Machine}

theorem setState (h : session.IsWritten before machine) (f : LogState → LogState) :
    ({ session with state := f session.state } : LogSession).IsWritten before
      { machine with log := f machine.log } :=
  ⟨congrArg f h.log, h.base, h.errors, h.output, h.held, h.opened⟩

theorem setTime (h : session.IsWritten before machine) (time : String) :
    session.IsWritten before { machine with time := time } :=
  ⟨h.log, h.base, h.errors, h.output, h.held, h.opened⟩

theorem step {command : LogCommand} (hbase : before.workingDirectory.isAbsolute)
    (hopened : session.HasOpened) (h : session.IsWritten before machine)
    (hrun : command.perform.run.run machine = (.ok (), after)) :
    (session.step command).IsWritten before after := by
  cases command with
  | configure settings =>
    obtain ⟨opened, hopens, hfiles, rfl⟩ := run_applyLogSettings (by rwa [h.base]) hrun
    have hlog : opened.log = session.state := by
      rw [hopens.unchanged]
      exact h.log
    refine ⟨?_, ?_, ?_, ?_, fun place => ?_, fun file hfile => ?_⟩
    · rw [hlog]
      rfl
    · exact (congrArg Machine.workingDirectory hopens.unchanged).trans h.base
    · exact (congrArg Machine.errors hopens.unchanged).trans h.errors
    · exact (congrArg Machine.output hopens.unchanged).trans h.output
    · exact (hopens.held place).trans (h.held place)
    · obtain hfile | hfile := List.mem_append.1 hfile
      · exact hopens.hasFile (h.opened file hfile)
      · exact hfiles file hfile
  | beginRun run =>
    cases hrun
    exact h.setState fun state => { state with run := some run }
  | endRun =>
    cases hrun
    exact h.setState fun state => { state with run := none }
  | suppress on =>
    cases hrun
    exact h.setState fun state => { state with isSuppressed := on }
  | write time record =>
    have hafter : ((Host.record record : StateM Machine Unit).run
        { machine with time := time }).2 = after := congrArg Prod.snd hrun
    subst hafter
    have hrecord : (Host.record record : StateM Machine Unit).run { machine with time := time } =
        ((session.state.linesOf time record).forM Machine.deliver).run
          { machine with time := time } := by
      rw [← h.log]
      rfl
    rw [hrecord]
    exact (h.setTime time).deliveries hopened.lines
  | relay time level message =>
    have hafter : ((Host.relay level message : StateM Machine Unit).run
        { machine with time := time }).2 = after := congrArg Prod.snd hrun
    subst hafter
    have hrelay : (Host.relay level message : StateM Machine Unit).run
        { machine with time := time } =
        ((session.state.linesOfMessage time level message).forM Machine.deliver).run
          { machine with time := time } := by
      rw [← h.log]
      rfl
    rw [hrelay]
    exact (h.setTime time).deliveries hopened.lines

theorem run {commands : List LogCommand} (hbase : before.workingDirectory.isAbsolute)
    (hopened : session.HasOpened) (h : session.IsWritten before machine)
    (hrun : (commands.forM LogCommand.perform).run.run machine = (.ok (), after)) :
    (commands.foldl LogSession.step session).IsWritten before after := by
  induction commands generalizing session machine with
  | nil =>
    cases hrun
    exact h
  | cons command commands ih =>
    have hforM : (command :: commands).forM LogCommand.perform =
        command.perform >>= fun _ => commands.forM LogCommand.perform := rfl
    rw [hforM, ExceptT.run_bind, StateT.run_bind] at hrun
    cases hcommand : command.perform.run.run machine with
    | mk result next =>
      rw [hcommand] at hrun
      cases result with
      | ok => exact ih (hopened.step command) (h.step hbase hopened hcommand) hrun
      | error halt => cases hrun

end IsWritten

/-- On a machine whose log starts, commands write what the session says. -/
theorem isWritten_after {commands : List LogCommand} {before machine : Machine}
    (hlog : before.log = {}) (hbase : before.workingDirectory.isAbsolute)
    (hrun : (commands.forM LogCommand.perform).run.run before = (.ok (), machine)) :
    (after commands).IsWritten before machine := by
  have hstart : ({} : LogSession).IsWritten before before :=
    ⟨hlog, rfl, (List.append_nil _).symm, rfl, fun _ => (List.append_nil _).symm, nofun⟩
  exact hstart.run hbase nofun hrun

end LogSession

end SchemaAtlas

import SchemaAtlas.Progress
import SchemaAtlas.Proofs.Host.Records

/-!
# What programs show

The console of a machine only grows, and `Machine.Shows` says by what: a program adds the same items
on every machine.  Programs in a row add what each of them adds, so a program is quiet if all its
parts are.  Whether a message is shown is up to the marks in it and to the console
(`exists_run_tell_of_accepted`).
-/

namespace SchemaAtlas.Machine

variable {β γ : Type}

/-- On every machine, the program adds the items to the console. -/
def Shows (program : StateM Machine β) (items : List ConsoleItem) : Prop :=
  ∀ machine, (program.run machine).2.console = machine.console ++ items

/-- The program leaves the console alone. -/
def IsQuiet (program : StateM Machine β) : Prop :=
  Shows program []

/-! ### Rules -/

section

variable {program : StateM Machine β} {next : β → StateM Machine γ} {items more : List ConsoleItem}

theorem Shows.bind (h : Shows program items) (h' : ∀ b, Shows (next b) more) :
    Shows (program >>= next) (items ++ more) := by
  intro machine
  rw [StateT.run_bind, ← List.append_assoc, ← h machine]
  exact h' _ _

theorem isQuiet_of_console_eq (h : ∀ machine, (program.run machine).2.console = machine.console) :
    IsQuiet program := by
  intro machine
  rw [h machine, List.append_nil]

theorem isQuiet_pure (b : β) : IsQuiet (pure b) :=
  isQuiet_of_console_eq fun _ => rfl

theorem IsQuiet.bind (h : IsQuiet program) (h' : ∀ b, IsQuiet (next b)) :
    IsQuiet (program >>= next) :=
  Shows.bind h h'

/-- To look at the machine changes nothing. -/
theorem isQuiet_query (f : Machine → β) : IsQuiet (do return f (← get)) :=
  isQuiet_of_console_eq fun _ => rfl

theorem isQuiet_modify {f : Machine → Machine}
    (h : ∀ machine, (f machine).console = machine.console) : IsQuiet (modify f) :=
  isQuiet_of_console_eq h

end

theorem DiffersInWritten.console_eq {before after : Machine} (h : before.DiffersInWritten after) :
    after.console = before.console := by
  rw [h]

/-! ### Single steps -/

theorem isQuiet_print (text : String) : IsQuiet (Host.print text) :=
  isQuiet_modify fun _ => rfl

theorem isQuiet_change (path : Path) (f : FileTree → Path → Except FileFault FileTree) :
    IsQuiet (change path f) :=
  isQuiet_of_console_eq fun machine => (differsInWritten_change path f machine).console_eq

theorem isQuiet_record (r : LogRecord) : IsQuiet (Host.record r) :=
  isQuiet_of_console_eq fun machine => (differsInWritten_record r machine).console_eq

theorem isQuiet_setLogState (state : LogState) : IsQuiet (Host.setLogState state) :=
  isQuiet_modify fun _ => rfl

theorem isQuiet_kind? (path : Path) : IsQuiet (Host.kind? path) :=
  isQuiet_query fun machine => (machine.tree.find? (machine.absolute path)).map FileTree.kindOf

theorem isQuiet_isDirectory (path : Path) : IsQuiet (Host.isDirectory path) :=
  (isQuiet_kind? path).bind fun _ => isQuiet_pure _

theorem isQuiet_isFile (path : Path) : IsQuiet (Host.isFile path) :=
  (isQuiet_kind? path).bind fun _ => isQuiet_pure _

theorem isQuiet_read (path : Path) : IsQuiet (Host.read path) :=
  isQuiet_query fun machine =>
    (machine.tree.read (machine.absolute path)).mapError fun fault =>
      FileFault.mk fault.problem path

/-! ### Directories -/

theorem isQuiet_makeDirectories (path : Path) (depth : Nat) :
    IsQuiet (Host.makeDirectories path depth) := by
  induction depth generalizing path with
  | zero => exact isQuiet_pure _
  | succ depth ih =>
    have hmake : ∀ path, IsQuiet (Host.makeDirectory path) := fun path => isQuiet_change path _
    have hcheck : ∀ fault : FileFault, IsQuiet
        (do return if ← Host.isDirectory path then .ok () else .error fault :
          StateM Machine (Except FileFault Unit)) :=
      fun _ => (isQuiet_isDirectory path).bind fun _ => isQuiet_pure _
    unfold Host.makeDirectories
    refine (hmake path).bind fun result => ?_
    cases result with
    | ok => exact isQuiet_pure _
    | error fault =>
      dsimp only
      split
      · refine (ih path.parent).bind fun result => ?_
        cases result with
        | ok =>
          refine (hmake path).bind fun result => ?_
          cases result with
          | ok => exact isQuiet_pure _
          | error fault => exact hcheck fault
        | error fault => exact isQuiet_pure _
      · exact hcheck fault

/-! ### Items -/

section

variable {item : ConsoleItem} {message : String} {style : StatusStyle} {indent : Int}
  {machine : Machine}

theorem run_present_of_accepted (h : machine.markup.fault? item = none) :
    (Host.present item : StateM Machine _).run machine = (.ok (), machine.showing item) := by
  rw [run_present, h]

/-- A message that the console does not refuse is shown, and the log is all that changes besides. -/
theorem exists_run_tell_of_accepted
    (h : machine.markup.fault? (.line (statusLine message style indent)) = none) :
    ∃ after, (Step.tell message style indent : StateM Machine _).run machine = (.ok (), after) ∧
      (machine.showing (.line (statusLine message style indent))).DiffersInWritten after := by
  rw [Step.tell, StateT.run_bind, run_present_of_accepted h]
  exact ⟨_, rfl, differsInWritten_record _ _⟩

end

end SchemaAtlas.Machine

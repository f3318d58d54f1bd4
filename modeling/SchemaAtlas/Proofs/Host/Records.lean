import SchemaAtlas.Host.Memory

/-!
# Records on a host in memory

What a machine writes to its log goes to files and to the streams of the terminal, and all else that
the machine holds stays as it is (`differsInWritten_record`).  So whether the terminal is suppressed
is up to the programs that say so; all others have `KeepsSuppression`, which composes.
-/

namespace SchemaAtlas.Machine

/-- The machines differ in nothing but files and what stands on the streams of the terminal. -/
def DiffersInWritten (before after : Machine) : Prop :=
  after = { before with tree := after.tree, output := after.output, errors := after.errors }

namespace DiffersInWritten

variable {before next after : Machine}

theorem trans (h : before.DiffersInWritten next) (h' : next.DiffersInWritten after) :
    before.DiffersInWritten after := by
  unfold DiffersInWritten at h h' ⊢
  rw [h', h]

theorem log_eq (h : before.DiffersInWritten after) : after.log = before.log := by
  rw [h]

end DiffersInWritten

theorem run_change (path : Path) (f : FileTree → Path → Except FileFault FileTree)
    (machine : Machine) : (change path f).run machine =
      match f machine.tree (machine.absolute path) with
      | .ok tree => (.ok (), { machine with tree := tree })
      | .error fault => (.error ⟨fault.problem, path⟩, machine) := by
  cases h : f machine.tree (machine.absolute path) <;> simp only [change, StateT.run_bind] <;>
    simp only [StateT.run_get, pure_bind, h] <;> rfl

theorem differsInWritten_change (path : Path)
    (f : FileTree → Path → Except FileFault FileTree) (machine : Machine) :
    machine.DiffersInWritten ((change path f).run machine).2 := by
  rw [run_change]
  cases f machine.tree (machine.absolute path) <;> rfl

theorem differsInWritten_deliver (d : Delivery) (machine : Machine) :
    machine.DiffersInWritten ((deliver d).run machine).2 := by
  unfold deliver
  split
  · rfl
  · rfl
  · next path _ =>
    exact differsInWritten_change (.ofText path)
      (fun tree path => tree.write path fun content => content ++ (d.line ++ "\n").toUTF8.toList)
      machine

theorem differsInWritten_deliveries (ds : List Delivery) (machine : Machine) :
    machine.DiffersInWritten ((ds.forM deliver).run machine).2 := by
  induction ds generalizing machine with
  | nil => rfl
  | cons d ds ih => exact (differsInWritten_deliver d machine).trans (ih _)

theorem differsInWritten_record (r : LogRecord) (machine : Machine) :
    machine.DiffersInWritten ((Host.record r : StateM Machine Unit).run machine).2 :=
  differsInWritten_deliveries (machine.log.linesOf machine.time r) machine

theorem run_present (item : ConsoleItem) (machine : Machine) :
    (Host.present item : StateM Machine _).run machine =
      match machine.markup.fault? item with
      | some fault => (.error fault, machine)
      | none => (.ok (), machine.showing item) := by
  show (present item).run machine = _
  cases h : machine.markup.fault? item <;>
    simp only [present, StateT.run_bind, StateT.run_get, pure_bind, h] <;> rfl

theorem run_present_bind {β : Type} (item : ConsoleItem)
    (next : Except MarkupFault Unit → StateM Machine β) (machine : Machine) :
    (Host.present item >>= next).run machine =
      match machine.markup.fault? item with
      | some fault => (next (.error fault)).run machine
      | none => (next (.ok ())).run (machine.showing item) := by
  rw [StateT.run_bind, run_present]
  cases machine.markup.fault? item <;> rfl

/-- What the clock shows next. -/
def reading (machine : Machine) : Binary64 :=
  machine.readings.headD ⟨0⟩

/-- To look at the clock changes nothing but what it shows next. -/
theorem run_clock (machine : Machine) : (Host.clock : StateM Machine Binary64).run machine =
    (machine.reading, { machine with readings := machine.readings.tail }) := by
  show readClock.run machine = _
  cases machine with
  | mk _ _ _ _ _ _ _ readings => cases readings <;> rfl

theorem run_clock_bind {β : Type} (next : Binary64 → StateM Machine β) (machine : Machine) :
    (Host.clock >>= next).run machine =
      (next machine.reading).run { machine with readings := machine.readings.tail } := by
  rw [StateT.run_bind, run_clock]
  rfl

/-! ### Suppression of the terminal -/

/-- Nothing of the log is written to the terminal. -/
def isSuppressed (machine : Machine) : Bool :=
  machine.log.isSuppressed

/-- The machine with its terminal suppressed or released. -/
def suppressing (machine : Machine) (on : Bool) : Machine :=
  { machine with log := { machine.log with isSuppressed := on } }

variable {β γ : Type}

theorem run_suppress_bind (on : Bool) (next : Unit → StateM Machine β) (machine : Machine) :
    (Host.suppress on >>= next).run machine = (next ()).run (machine.suppressing on) :=
  rfl

/-- The program leaves it as it is whether the terminal is suppressed. -/
def KeepsSuppression (program : StateM Machine β) : Prop :=
  ∀ machine, (program.run machine).2.isSuppressed = machine.isSuppressed

namespace KeepsSuppression

theorem pure (b : β) : KeepsSuppression (pure b) :=
  fun _ => rfl

theorem bind {program : StateM Machine β} {next : β → StateM Machine γ}
    (h : KeepsSuppression program) (h' : ∀ b, KeepsSuppression (next b)) :
    KeepsSuppression (program >>= next) := fun machine => by
  rw [StateT.run_bind]
  exact (h' _ _).trans (h machine)

theorem present (item : ConsoleItem) : KeepsSuppression (Host.present item) := fun machine => by
  rw [run_present]
  cases machine.markup.fault? item <;> rfl

theorem clock : KeepsSuppression Host.clock := fun machine => by
  rw [run_clock]
  rfl

theorem record (r : LogRecord) : KeepsSuppression (Host.record r) := fun machine =>
  congrArg LogState.isSuppressed (differsInWritten_record r machine).log_eq

end KeepsSuppression

theorem run_ifInteractive (yes no : StateM Machine β) (machine : Machine) :
    (do if ← Host.isInteractive then yes else no : StateM Machine β).run machine =
      (if machine.isInteractive then yes else no).run machine :=
  rfl

end SchemaAtlas.Machine

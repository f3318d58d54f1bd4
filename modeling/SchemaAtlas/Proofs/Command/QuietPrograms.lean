import SchemaAtlas.Command.Project
import SchemaAtlas.Proofs.Command.Results
import SchemaAtlas.Proofs.Host.Showing
import SchemaAtlas.Proofs.Log.Opening

/-!
# Quiet programs

Until a command works on its project, it shows nothing: to read the line (`isQuiet_read`) and to open
the project (`isQuiet_openProject`) leave the console alone, whether or not they halt.  A program that
halts does not go on, so all that has to be shown is that its steps are quiet.
-/

namespace SchemaAtlas.Command

open Machine

variable {α β γ : Type}

/-! ### Rules -/

section

variable {program : Program (StateM Machine) α} {next : α → Program (StateM Machine) β}

/-- What a program gives, it gives on the console as it was. -/
theorem console_eq_of_gives (hquiet : IsQuiet program.run) {machine after : Machine} {a : α}
    (h : program.Gives machine a after) : after.console = machine.console := by
  have hconsole := hquiet machine
  rw [h, List.append_nil] at hconsole
  exact hconsole

theorem isQuiet_run_pure (a : α) : IsQuiet (pure a : Program (StateM Machine) α).run :=
  isQuiet_pure _

theorem isQuiet_run_throw (halt : Halt) :
    IsQuiet (throw halt : Program (StateM Machine) α).run :=
  isQuiet_pure _

theorem isQuiet_run_lift {program : StateM Machine α} (h : IsQuiet program) :
    IsQuiet (liftM program : Program (StateM Machine) α).run :=
  h.bind fun _ => isQuiet_pure _

theorem isQuiet_run_orHalt (halt : β → Halt) (result : Except β α) :
    IsQuiet (Program.orHalt halt result : Program (StateM Machine) α).run := by
  cases result <;> exact isQuiet_pure _

/-- A program that halts shows nothing more. -/
theorem isQuiet_run_bind (h : IsQuiet program.run) (h' : ∀ a, IsQuiet (next a).run) :
    IsQuiet (program >>= next).run := by
  rw [ExceptT.run_bind]
  refine h.bind fun result => ?_
  cases result with
  | ok a => exact h' a
  | error halt => exact isQuiet_pure _

theorem isQuiet_run_forM {step : γ → Program (StateM Machine) Unit} (h : ∀ c, IsQuiet (step c).run)
    (items : List γ) : IsQuiet (items.forM step).run := by
  induction items with
  | nil => exact isQuiet_run_pure ()
  | cons item items ih => exact isQuiet_run_bind (h item) fun _ => ih

end

/-! ### Reading the line -/

section

variable (form : CommandForm)

theorem isQuiet_checkValue (rule : ValueRule) (place value : String) :
    IsQuiet (form.checkValue rule place value : Program (StateM Machine) Unit).run := by
  have hkind : IsQuiet (kindAt? value : Program (StateM Machine) _).run := by
    unfold kindAt?
    split
    · exact isQuiet_run_pure _
    · exact isQuiet_run_lift (isQuiet_kind? _)
  rw [checkValue_eq]
  refine isQuiet_run_bind hkind fun found => ?_
  cases rule.objection? found value with
  | none => exact isQuiet_run_pure _
  | some reason => exact isQuiet_run_throw _

theorem isQuiet_checkOption (option : String × OptionValue) :
    IsQuiet (form.checkOption option : Program (StateM Machine) Unit).run := by
  unfold CommandForm.checkOption
  split
  · exact isQuiet_run_pure _
  · split
    · exact isQuiet_checkValue form _ _ _
    · exact isQuiet_run_pure _

theorem isQuiet_checkWords (words : List String) :
    IsQuiet (form.checkWords words : Program (StateM Machine) Unit).run := by
  unfold CommandForm.checkWords
  split
  · exact isQuiet_run_pure _
  · exact isQuiet_run_throw _
  · refine isQuiet_run_bind (isQuiet_checkValue form _ _ _) fun _ => ?_
    split
    · exact isQuiet_run_throw _
    · exact isQuiet_run_pure _

theorem isQuiet_read (line : List String) :
    IsQuiet (form.read line : Program (StateM Machine) (Option Arguments)).run := by
  unfold CommandForm.read
  refine isQuiet_run_bind (isQuiet_run_orHalt _ _) fun arguments => ?_
  split
  · exact isQuiet_run_pure _
  · refine isQuiet_run_bind (isQuiet_run_forM (isQuiet_checkOption form) _) fun _ => ?_
    exact isQuiet_run_bind (isQuiet_checkWords form _) fun _ => isQuiet_run_pure _

end

/-! ### Opening the project -/

theorem isQuiet_firstRoot? (paths : List Path) :
    IsQuiet (firstRoot? paths : StateM Machine (Option Path)) := by
  induction paths with
  | nil => exact isQuiet_pure _
  | cons path rest ih =>
    have hroot : IsQuiet (isRoot path : StateM Machine Bool) := by
      unfold isRoot
      refine (isQuiet_isDirectory _).bind fun isDirectory => ?_
      split
      · exact isQuiet_pure _
      · exact (isQuiet_kind? _).bind fun _ => isQuiet_pure _
    unfold firstRoot?
    refine hroot.bind fun isRoot => ?_
    split
    · exact isQuiet_pure _
    · exact ih

theorem isQuiet_workingDirectory : IsQuiet (Host.workingDirectory : StateM Machine Path) :=
  isQuiet_query Machine.workingDirectory

theorem isQuiet_surroundings : IsQuiet (Host.surroundings : StateM Machine Surroundings) :=
  isQuiet_query Machine.surroundings

theorem isQuiet_findRoot : IsQuiet (findRoot : StateM Machine Path) := by
  refine isQuiet_workingDirectory.bind fun start => ?_
  refine isQuiet_workingDirectory.bind fun base => ?_
  exact (isQuiet_firstRoot? _).bind fun _ => isQuiet_pure _

theorem isQuiet_settingsText (path : Path) :
    IsQuiet (settingsText path : Program (StateM Machine) SettingsFile).run := by
  refine isQuiet_run_bind (isQuiet_run_lift (isQuiet_kind? path)) fun kind => ?_
  split
  · exact isQuiet_run_pure _
  · refine isQuiet_run_bind (isQuiet_run_lift (Machine.isQuiet_read path)) fun octets => ?_
    refine isQuiet_run_bind (isQuiet_run_orHalt _ octets) fun octets => ?_
    exact isQuiet_run_bind (isQuiet_run_orHalt _ _) fun _ => isQuiet_run_pure _

theorem isQuiet_applyLogSettings (settings : LogSettings) :
    IsQuiet (applyLogSettings settings : Program (StateM Machine) Unit).run := by
  have hfile : ∀ file, IsQuiet (openLogFile file : Program (StateM Machine) Unit).run := by
    intro file
    refine isQuiet_run_bind (isQuiet_run_lift (isQuiet_makeDirectories _ _)) fun made => ?_
    refine isQuiet_run_bind (isQuiet_run_orHalt _ made) fun _ => ?_
    refine isQuiet_run_bind (isQuiet_run_lift isQuiet_workingDirectory) fun base => ?_
    refine isQuiet_run_bind (isQuiet_run_lift (isQuiet_change _ _)) fun opened => ?_
    exact isQuiet_run_orHalt _ opened
  rw [applyLogSettings_eq]
  refine isQuiet_run_bind (isQuiet_run_forM hfile _) fun _ => ?_
  refine isQuiet_run_bind (isQuiet_run_lift (isQuiet_query Machine.log)) fun state => ?_
  exact isQuiet_run_lift (isQuiet_setLogState _)

theorem isQuiet_loadSettings (root : Path) (verbose : Bool) :
    IsQuiet (loadSettings root verbose : Program (StateM Machine) Settings).run := by
  refine isQuiet_run_bind (isQuiet_run_lift isQuiet_surroundings) fun surroundings => ?_
  refine isQuiet_run_bind (isQuiet_settingsText _) fun file => ?_
  refine isQuiet_run_bind (isQuiet_run_orHalt _ _) fun entries => ?_
  refine isQuiet_run_bind (isQuiet_run_orHalt _ _) fun sections => ?_
  refine isQuiet_run_bind (isQuiet_run_lift (isQuiet_query Machine.userFile)) fun path => ?_
  refine isQuiet_run_bind (isQuiet_settingsText path) fun user => ?_
  refine isQuiet_run_bind (isQuiet_run_orHalt _ _) fun entries => ?_
  refine isQuiet_run_bind (isQuiet_run_orHalt _ _) fun settings => ?_
  cases verbose with
  | true => exact isQuiet_run_pure _
  | false =>
    exact isQuiet_run_bind (isQuiet_applyLogSettings _) fun _ => isQuiet_run_pure _

theorem isQuiet_placeOf (root : Path) (given : String) :
    IsQuiet (placeOf root given : Program (StateM Machine) Path).run := by
  refine isQuiet_run_bind (isQuiet_run_lift isQuiet_surroundings) fun surroundings => ?_
  exact isQuiet_run_bind (isQuiet_run_orHalt _ _) fun _ => isQuiet_run_pure _

theorem isQuiet_readSchema (path : Path) :
    IsQuiet (readSchema path : StateM Machine (Except Failure String)) := by
  refine (isQuiet_isFile path).bind fun isFile => ?_
  split
  · refine (Machine.isQuiet_read path).bind fun octets => ?_
    split
    · exact isQuiet_pure _
    · split <;> exact isQuiet_pure _
  · exact isQuiet_pure _

theorem isQuiet_openProject (verbose : Bool) (given : Option String) :
    IsQuiet (openProject verbose given : Program (StateM Machine) Project).run := by
  refine isQuiet_run_bind (isQuiet_run_lift isQuiet_findRoot) fun root => ?_
  refine isQuiet_run_bind (isQuiet_loadSettings root verbose) fun settings => ?_
  have hopen : IsQuiet (do
      let path ← placeOf root (given.getD settings.paths.schemaPath)
      let text ← Program.orFailure (← readSchema (m := StateM Machine) path)
      let schema := Schema.ofText text
      Host.record (m := StateM Machine) ⟨.debug, "schema_loaded", [("path", .text path.text),
        ("models", .int schema.models.length), ("enums", .int schema.enumerations.length)]⟩
      return ⟨root, settings, path, schema⟩ : Program (StateM Machine) Project).run := by
    refine isQuiet_run_bind (isQuiet_placeOf _ _) fun path => ?_
    refine isQuiet_run_bind (isQuiet_run_lift (isQuiet_readSchema path)) fun text => ?_
    refine isQuiet_run_bind (isQuiet_run_orHalt _ text) fun text => ?_
    exact isQuiet_run_bind (isQuiet_run_lift (isQuiet_record _)) fun _ => isQuiet_run_pure _
  dsimp only
  split
  · exact isQuiet_run_bind (isQuiet_run_throw _) fun _ => hopen
  · exact hopen

end SchemaAtlas.Command

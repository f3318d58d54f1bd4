import SchemaAtlas.Command.Project
import SchemaAtlas.Proofs.Host.FileTree
import SchemaAtlas.Proofs.Host.Records

/-!
# Opening the files of a log

To make directories and to open files for a log leaves everything that a machine holds as it is, but
for new directories and empty files (`Machine.Opens`).
-/

namespace SchemaAtlas

namespace Machine

/-- The machines differ in nothing but directories and empty files that are new. -/
structure Opens (before after : Machine) : Prop where
  unchanged : after = { before with tree := after.tree }
  grows : before.tree.Grows after.tree
  held : ∀ place, after.tree.held place = before.tree.held place

theorem Opens.refl (machine : Machine) : machine.Opens machine :=
  ⟨rfl, .refl _, fun _ => rfl⟩

theorem Opens.trans {before next after : Machine} (h : before.Opens next) (h' : next.Opens after) :
    before.Opens after where
  unchanged := by rw [h'.unchanged, h.unchanged]
  grows := h.grows.trans h'.grows
  held place := (h'.held place).trans (h.held place)

theorem Opens.absolute {before after : Machine} (h : before.Opens after) (path : Path) :
    after.absolute path = before.absolute path := by
  rw [h.unchanged]
  rfl

/-- On the machine, the program makes at most directories and empty files, and what it comes to is as
stated. -/
def Prepares {β : Type} (machine : Machine) (program : StateM Machine β)
    (post : β → Machine → Prop) : Prop :=
  machine.Opens (program.run machine).2 ∧ post (program.run machine).1 (program.run machine).2

section Prepares

variable {β γ : Type} {machine : Machine} {post : β → Machine → Prop}

theorem prepares_pure {b : β} (h : post b machine) : machine.Prepares (pure b) post :=
  ⟨.refl _, h⟩

theorem Prepares.bind {program : StateM Machine γ} {next : γ → StateM Machine β}
    {mid : γ → Machine → Prop} (h : machine.Prepares program mid)
    (h' : ∀ c after, machine.Opens after → mid c after → after.Prepares (next c) post) :
    machine.Prepares (program >>= next) post := by
  obtain ⟨hopens, hpost⟩ := h' _ _ h.1 h.2
  rw [Prepares, StateT.run_bind]
  exact ⟨h.1.trans hopens, hpost⟩

theorem prepares_change {path : Path} {f : FileTree → Path → Except FileFault FileTree}
    {post : Except FileFault Unit → Machine → Prop}
    (hok : ∀ tree, f machine.tree (machine.absolute path) = .ok tree →
      machine.tree.Grows tree ∧ (∀ place, tree.held place = machine.tree.held place) ∧
        post (.ok ()) { machine with tree := tree })
    (herror : ∀ fault, post (.error fault) machine) : machine.Prepares (change path f) post := by
  rw [Prepares, run_change]
  cases h : f machine.tree (machine.absolute path) with
  | ok tree =>
    obtain ⟨hgrows, hheld, hpost⟩ := hok tree h
    exact ⟨⟨rfl, hgrows, hheld⟩, hpost⟩
  | error fault => exact ⟨.refl _, herror _⟩

end Prepares

/-- A directory is at the path. -/
def HasDirectory (machine : Machine) (path : Path) : Prop :=
  machine.tree.find? (machine.absolute path) = some .directory

theorem Opens.hasDirectory {before after : Machine} {path : Path} (h : before.Opens after)
    (hdirectory : before.HasDirectory path) : after.HasDirectory path := by
  rw [HasDirectory, h.absolute]
  exact h.grows.find?_directory hdirectory

theorem prepares_makeDirectory (machine : Machine) (path : Path) :
    machine.Prepares (Host.makeDirectory path) fun result after =>
      result = .ok () → after.HasDirectory path :=
  prepares_change (fun _ htree => ⟨FileTree.grows_makeDirectory htree,
    FileTree.held_makeDirectory htree, fun _ => FileTree.find?_makeDirectory htree⟩)
    (fun _ => nofun)

theorem prepares_isDirectory (machine : Machine) (path : Path) :
    machine.Prepares (Host.isDirectory path) fun result after =>
      result = true → after.HasDirectory path := by
  refine ⟨.refl _, fun hresult => ?_⟩
  have hkind : ((machine.tree.find? (machine.absolute path)).map FileTree.kindOf ==
      some .directory) = true := hresult
  rw [HasDirectory]
  rcases h : machine.tree.find? (machine.absolute path) with _ | _ | content
  · simp [h] at hkind
  · exact h
  · simp [h, FileTree.kindOf] at hkind

theorem prepares_makeDirectories (machine : Machine) (path : Path) (depth : Nat) :
    machine.Prepares (Host.makeDirectories path depth) fun result after =>
      result = .ok () → after.HasDirectory path := by
  induction depth generalizing machine path with
  | zero => exact prepares_pure nofun
  | succ depth ih =>
    have hcheck : ∀ (machine : Machine) (fault : FileFault),
        machine.Prepares (do return if ← Host.isDirectory path then .ok () else .error fault)
          fun (result : Except FileFault Unit) after =>
            result = .ok () → after.HasDirectory path := by
      intro machine fault
      refine (prepares_isDirectory machine path).bind fun isDirectory after _ hafter => ?_
      cases isDirectory with
      | true => exact prepares_pure fun _ => hafter rfl
      | false => exact prepares_pure nofun
    rw [Host.makeDirectories]
    refine (prepares_makeDirectory machine path).bind fun result next _ hnext => ?_
    cases result with
    | ok => exact prepares_pure fun _ => hnext rfl
    | error fault =>
      dsimp only
      split
      · refine (ih next path.parent).bind fun result last _ _ => ?_
        cases result with
        | ok =>
          refine (prepares_makeDirectory last path).bind fun result after _ hafter => ?_
          cases result with
          | ok => exact prepares_pure fun _ => hafter rfl
          | error fault => exact hcheck after fault
        | error fault => exact prepares_pure nofun
      · exact hcheck next fault

/-! ### Files -/

/-- A file is at the path. -/
def HasFile (machine : Machine) (path : Path) : Prop :=
  machine.tree.IsFile (machine.absolute path)

theorem Opens.hasFile {before after : Machine} {path : Path} (h : before.Opens after)
    (hfile : before.HasFile path) : after.HasFile path := by
  rw [HasFile, h.absolute]
  exact h.grows.isFile hfile

/-- Below a directory, a path leads somewhere. -/
theorem HasDirectory.leads {machine : Machine} {path : Path}
    (h : machine.HasDirectory path.parent) : machine.tree.Leads (machine.absolute path) := by
  obtain ⟨hleads, hnode⟩ := FileTree.find?_eq_some_iff.1 h
  by_cases hnames : path.names = []
  · have hparent : path.parent = path := by
      obtain ⟨root, names⟩ := path
      subst hnames
      rfl
    rwa [hparent] at hleads
  · have hlast : (machine.absolute path).names =
        (machine.absolute path.parent).names ++ [path.names.getLast hnames] := by
      by_cases hroot : path.root = .relative <;>
        simp [absolute, Path.join, Path.parent, Path.isAbsolute, hroot,
          List.dropLast_concat_getLast]
    obtain ⟨place, hwalk⟩ :=
      FileTree.exists_walk_concat hleads (FileTree.kind?_eq_directory_iff.2 hnode)
    rw [← hlast] at hwalk
    exact FileTree.leads_of_walk hwalk

theorem absolute_resolved {machine : Machine} (hbase : machine.workingDirectory.isAbsolute)
    (path : Path) : machine.absolute (path.resolved machine.workingDirectory) =
      path.resolved machine.workingDirectory := by
  refine Path.join_of_isAbsolute ?_
  rw [Path.resolved, Path.join]
  split
  · assumption
  · exact hbase

/-- A file of the log can be written from when it has been opened. -/
theorem prepares_openLog {machine : Machine} {path : Path}
    (hbase : machine.workingDirectory.isAbsolute) (hdirectory : machine.HasDirectory path.parent) :
    machine.Prepares (Host.openLog (path.resolved machine.workingDirectory)) fun result after =>
      result = .ok () → after.HasFile path := by
  refine prepares_change (fun tree htree => ?_) fun _ => nofun
  rw [absolute_resolved hbase] at htree
  have hgrows := FileTree.grows_write htree
  refine ⟨hgrows, fun place => ?_, fun _ => ⟨hgrows.leads hdirectory.leads, ?_⟩⟩
  · rw [FileTree.held_write htree]
    exact ite_self _
  · have hnode := (FileTree.read_eq_ok_iff.1 (FileTree.read_write htree)).2
    rw [Path.place_resolved] at hnode
    exact congrArg (Option.map FileTree.kindOf) hnode

end Machine

namespace Command

open Machine

section

variable {m : Type → Type} [Monad m] [Host m]

/-- A file of the log is opened, in a directory that is made for it. -/
def openLogFile (file : String) : Program m Unit := do
  let path := Path.ofText file
  Program.orFileFault (← Host.makeRoomFor (m := m) path)
  Program.orFileFault (← Host.openLog (m := m) (path.resolved (← Host.workingDirectory (m := m))))

theorem applyLogSettings_eq (settings : LogSettings) :
    (applyLogSettings settings : Program m Unit) = (do
      settings.files.forM openLogFile
      let state ← Host.logState (m := m)
      Host.setLogState (m := m) { state with settings := some settings }) :=
  rfl

end

section

variable {β γ : Type} {machine : Machine}

/-- If the program comes to a result, it is as stated. -/
def Succeeds (post : β → Machine → Prop) (result : Except Halt β) (after : Machine) : Prop :=
  ∀ b, result = .ok b → post b after

/-- The rule for programs that may halt. -/
theorem prepares_bind {program : Program (StateM Machine) γ}
    {next : γ → Program (StateM Machine) β} {mid : γ → Machine → Prop} {post : β → Machine → Prop}
    (h : machine.Prepares program.run (Succeeds mid))
    (h' : ∀ c after, machine.Opens after → mid c after →
      after.Prepares (next c).run (Succeeds post)) :
    machine.Prepares (program >>= next).run (Succeeds post) := by
  rw [ExceptT.run_bind]
  refine h.bind fun result after hopens hmid => ?_
  cases result with
  | ok c => exact h' c after hopens (hmid c rfl)
  | error halt => exact prepares_pure nofun

theorem prepares_lift {program : StateM Machine β} {post : β → Machine → Prop}
    (h : machine.Prepares program post) :
    machine.Prepares (liftM program : Program (StateM Machine) β).run (Succeeds post) :=
  h.bind fun _ _ _ hpost => prepares_pure fun _ hb => Except.ok.inj hb ▸ hpost

theorem prepares_orFileFault {result : Except FileFault Unit} {post : Machine → Prop}
    (h : result = .ok () → post machine) :
    machine.Prepares (Program.orFileFault result : Program (StateM Machine) Unit).run
      (Succeeds fun _ => post) := by
  cases result with
  | ok => exact prepares_pure fun _ _ => h rfl
  | error fault => exact prepares_pure nofun

theorem prepares_openLogFile (hbase : machine.workingDirectory.isAbsolute)
    (file : String) : machine.Prepares (openLogFile file : Program (StateM Machine) Unit).run
      (Succeeds fun _ after => after.HasFile (.ofText file)) := by
  have hroom : machine.Prepares (Host.makeRoomFor (.ofText file)) fun result after =>
      result = .ok () → after.HasDirectory (Path.ofText file).parent :=
    prepares_makeDirectories machine _ _
  refine prepares_bind (prepares_lift hroom) fun result next hnext hresult => ?_
  have hroom : next.Prepares (Program.orFileFault result : Program (StateM Machine) Unit).run
      (Succeeds fun _ after => after.HasDirectory (Path.ofText file).parent) :=
    prepares_orFileFault hresult
  have hworking : ∀ machine : Machine, machine.Prepares Host.workingDirectory
      fun directory after => directory = after.workingDirectory := fun _ => ⟨.refl _, rfl⟩
  refine prepares_bind hroom fun _ last hlast hdirectory => ?_
  refine prepares_bind (prepares_lift (hworking last)) fun directory here hhere hpath => ?_
  subst hpath
  have hbase : here.workingDirectory.isAbsolute := by
    rw [hhere.unchanged, hlast.unchanged, hnext.unchanged]
    exact hbase
  have hopen := prepares_openLog hbase (hhere.hasDirectory hdirectory)
  exact prepares_bind (prepares_lift hopen) fun result after _ hresult =>
    prepares_orFileFault hresult

theorem prepares_openLogFiles (hbase : machine.workingDirectory.isAbsolute) (files : List String) :
    machine.Prepares (files.forM openLogFile : Program (StateM Machine) Unit).run
      (Succeeds fun _ after => ∀ file ∈ files, after.HasFile (.ofText file)) := by
  induction files generalizing machine with
  | nil => exact prepares_pure fun _ _ => List.forall_mem_nil _
  | cons file files ih =>
    refine prepares_bind (prepares_openLogFile hbase file) fun _ next hnext hfile => ?_
    obtain ⟨hopens, hfiles⟩ := @ih next (by rwa [hnext.unchanged])
    exact ⟨hopens, fun b hb => List.forall_mem_cons.2 ⟨hopens.hasFile hfile, hfiles b hb⟩⟩

/-- When settings of the log have taken effect, each of its files can be written, and nothing else has
changed but for new directories and empty files. -/
theorem run_applyLogSettings {after : Machine} (hbase : machine.workingDirectory.isAbsolute)
    {settings : LogSettings}
    (hrun : (applyLogSettings settings : Program (StateM Machine) Unit).run.run machine =
      (.ok (), after)) :
    ∃ opened : Machine, machine.Opens opened ∧
      (∀ file ∈ settings.files, opened.HasFile (.ofText file)) ∧
      after = { opened with log := { opened.log with settings := some settings } } := by
  obtain ⟨hopens, hfiles⟩ := prepares_openLogFiles hbase settings.files
  rw [applyLogSettings_eq, ExceptT.run_bind, StateT.run_bind] at hrun
  generalize (settings.files.forM openLogFile : Program (StateM Machine) Unit).run.run machine =
    outcome at hrun hopens hfiles
  obtain ⟨_ | _, opened⟩ := outcome
  · cases hrun
  · cases hrun
    exact ⟨opened, hopens, hfiles () rfl, rfl⟩

end

end Command

end SchemaAtlas

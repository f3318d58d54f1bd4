import SchemaAtlas.Proofs.PathTexts
import SchemaAtlas.Proofs.Settings.Precedence

/-!
# Settings that are read again

What is read as a setting has one written form, whatever form it was read from, and that is read as
the same (`ReadsAgain`).  For most values there is nothing to show, since they are written as they
are; a destination of the log is written as an absolute path in normal form
(`readsAgain_readDestination`).

Main statement: every section that has been read reads again, and so do all settings that are loaded
(`settingsReadAgain`).
-/

namespace SchemaAtlas

open Keyed

variable {α β : Type} {homes : Homes}

/-- What has been read is written in a form that is read as the same. -/
def ReadsAgain (read : Data → Checked α) (write : α → Data) : Prop :=
  ∀ d a, read d = .valid a → read (write a) = .valid a

/-- A value reads again, whether it is stated or a default that reads again. -/
theorem ReadsAgain.of_isValueOf {read : Data → Checked α} {write : α → Data}
    {stated : Option Data} {fallback a : α} (h : ReadsAgain read write)
    (hfallback : read (write fallback) = .valid fallback)
    (hvalue : IsValueOf stated read fallback a) : read (write a) = .valid a := by
  cases stated with
  | none => exact (show a = fallback from hvalue) ▸ hfallback
  | some d => exact h d a hvalue

namespace Checked

theorem andThen_eq_valid_iff {x : Checked α} {f : α → Checked β} {b : β} :
    x.andThen f = .valid b ↔ ∃ a, x = .valid a ∧ f a = .valid b := by
  cases x <;> simp [andThen]

section

variable {read : Data → Checked α} {as : List α}

theorem each_cons_eq_valid_iff {position : Nat} {item : Data} {rest : List Data} :
    each read position (item :: rest) = .valid as ↔
      ∃ a more, read item = .valid a ∧ each read (position + 1) rest = .valid more ∧
        a :: more = as := by
  have hstep : each read position (item :: rest) =
      List.cons <$> under (toString position) (read item) <*> each read (position + 1) rest := rfl
  rw [hstep, seq_eq_valid_iff]
  simp

theorem exists_read_of_mem_each {position : Nat} {items : List Data}
    (h : each read position items = .valid as) : ∀ a ∈ as, ∃ d, read d = .valid a := by
  induction items generalizing position as with
  | nil =>
    obtain rfl := Checked.valid.inj h
    exact nofun
  | cons item rest ih =>
    obtain ⟨a, more, ha, hmore, rfl⟩ := each_cons_eq_valid_iff.1 h
    exact List.forall_mem_cons.2 ⟨⟨item, ha⟩, ih hmore⟩

theorem each_map (write : α → Data) (h : ∀ a ∈ as, read (write a) = .valid a) (position : Nat) :
    each read position (as.map write) = .valid as := by
  induction as generalizing position with
  | nil => rfl
  | cons a as ih =>
    obtain ⟨ha, has⟩ := List.forall_mem_cons.1 h
    exact each_cons_eq_valid_iff.2 ⟨a, as, ha, ih has _, rfl⟩

end

end Checked

/-! ### Values that are read as they are written -/

theorem readLimit_int (n : Limit) : readLimit (.int n.val) = .valid n := by
  have hpos : 1 ≤ (n.val : Int).toNat := n.2
  exact dif_pos hpos

theorem readTexts_ofTexts (texts : List String) : readTexts (.ofTexts texts) = .valid texts :=
  Checked.each_map .text (fun _ _ => rfl) 0

theorem readFormat_name (format : LogFormat) :
    readChoice LogFormat.all LogFormat.name (.text format.name) = .valid format := by
  cases format <;> rfl

theorem readSeverity_name (severity : Severity) :
    readChoice Severity.all Severity.name (.text severity.name) = .valid severity := by
  cases severity <;> rfl

theorem readPaths_toData (s : PathSettings) : readPaths s.toData = .valid s :=
  rfl

theorem readDocs_toData (s : DocSettings) : readDocs s.toData = .valid s := by
  refine readDocs_eq_valid_iff.2 ⟨_, rfl, ?_⟩
  simp only [docEntries, List.forall_mem_cons]
  exact ⟨rfl, readLimit_int _, readLimit_int _, readTexts_ofTexts _, readLimit_int _,
    List.forall_mem_nil _⟩

theorem readLint_toData (s : LintSettings) : readLint s.toData = .valid s := by
  refine readLint_eq_valid_iff.2 ⟨_, rfl, ?_⟩
  simp only [lintEntries, List.forall_mem_cons]
  exact ⟨readTexts_ofTexts _, rfl, readTexts_ofTexts _, rfl, readSeverity_name _,
    readTexts_ofTexts _, List.forall_mem_nil _⟩

theorem readTypegen_toData (s : TypeSettings) : readTypegen s.toData = .valid s := by
  refine readTypegen_eq_valid_iff.2 ⟨_, rfl, ?_⟩
  simp only [typeEntries, List.forall_mem_cons]
  exact ⟨rfl, readTexts_ofTexts _, readTexts_ofTexts _, rfl, List.forall_mem_nil _⟩

/-! ### Outputs of the log -/

theorem readDestination_text_of_isAbsolute {path : Path} (hnormal : path.IsNormal)
    (habsolute : path.isAbsolute) :
    readDestination homes (.text path.text) = .valid (.file path.text) := by
  have hhead := Path.head?_text_of_isAbsolute habsolute
  have hstream : ∀ name : String, name.toList.head? ≠ some '/' → (path.text == name) = false := by
    intro name hname
    rw [beq_eq_false_iff_ne]
    rintro rfl
    exact hname hhead
  show (if path.text == "stderr" then _ else if path.text == "stdout" then _ else _) = _
  simp only [hstream "stderr" nofun, hstream "stdout" nofun,
    Path.ofText_text hnormal, Path.expandHome_of_isAbsolute homes habsolute, habsolute]
  rfl

/-- A file is written as an absolute path in normal form. -/
theorem readsAgain_readDestination :
    ReadsAgain (readDestination homes) fun destination => .text destination.text := by
  intro d destination h
  obtain ⟨s, -, h⟩ := Checked.andThen_eq_valid_iff.1 h
  split at h
  · obtain rfl := Checked.valid.inj h
    rfl
  split at h
  · obtain rfl := Checked.valid.inj h
    rfl
  split at h
  · cases h
  · cases h
  rename_i path hpath
  split at h
  · rename_i habsolute
    obtain rfl := Checked.valid.inj h
    have hnormal := Path.isNormal_expandHome (Path.isNormal_ofText s) hpath
    exact readDestination_text_of_isAbsolute hnormal habsolute
  · cases h

/-- The entries of an output of the log. -/
def outputEntries (homes : Homes) : List (SectionEntry LogOutput) :=
  [⟨"format", _, readChoice LogFormat.all LogFormat.name, LogOutput.format⟩,
    ⟨"destination", _, readDestination homes, LogOutput.destination⟩,
    ⟨"level", _, readOptional readLevel, LogOutput.level⟩]

theorem readLogOutput_eq_valid_iff {d : Data} {o : LogOutput} :
    readLogOutput homes d = .valid o ↔ ∃ entries, d = .mapping entries ∧
      ∀ e ∈ outputEntries homes, e.IsReadFrom entries {} o := by
  cases o
  simp [readLogOutput, outputEntries, SectionEntry.IsReadFrom]

theorem readOptional_level (level : Option LogLevel) :
    readOptional readLevel
      (match level with
        | some level => .text level.name
        | none => .null) = .valid level := by
  rcases level with _ | _ | _ | _ | _ | _ <;> rfl

theorem readsAgain_readLogOutput : ReadsAgain (readLogOutput homes) LogOutput.toData := by
  intro d o h
  obtain ⟨entries, rfl, hentries⟩ := readLogOutput_eq_valid_iff.1 h
  simp only [outputEntries, List.forall_mem_cons] at hentries
  obtain ⟨-, hdestination, -⟩ := hentries
  refine readLogOutput_eq_valid_iff.2 ⟨_, rfl, ?_⟩
  simp only [outputEntries, List.forall_mem_cons]
  exact ⟨readFormat_name _, readsAgain_readDestination.of_isValueOf rfl hdestination,
    readOptional_level _, List.forall_mem_nil _⟩

theorem readsAgain_readLogOutputs :
    ReadsAgain (readLogOutputs homes) fun outputs => .list (outputs.map LogOutput.toData) := by
  intro d outputs h
  cases d with
  | list items =>
    refine Checked.each_map LogOutput.toData (fun o ho => ?_) 0
    obtain ⟨item, hitem⟩ := Checked.exists_read_of_mem_each h o ho
    exact readsAgain_readLogOutput item o hitem
  | scalar _ => cases h
  | mapping _ => cases h

theorem readsAgain_readLog : ReadsAgain (readLog homes) LogSettings.toData := by
  intro d s h
  obtain ⟨entries, rfl, hentries⟩ := readLog_eq_valid_iff.1 h
  simp only [logEntries, List.forall_mem_cons] at hentries
  obtain ⟨-, houtputs, -⟩ := hentries
  refine readLog_eq_valid_iff.2 ⟨_, rfl, ?_⟩
  simp only [logEntries, List.forall_mem_cons]
  exact ⟨readLevel_name _, readsAgain_readLogOutputs.of_isValueOf rfl houtputs,
    List.forall_mem_nil _⟩

/-! ### All settings -/

theorem readSettings_toData_of_readSections {sections : Keyed Data Scalar} {s : Settings}
    (h : readSections homes sections = .valid s) : readSettings homes s.toData = .valid s := by
  obtain ⟨hlogging, -⟩ := readSections_eq_valid_iff.1 h
  refine readSection_eq_valid_iff.2 ⟨_, rfl, readSections_eq_valid_iff.2 ?_⟩
  exact ⟨readsAgain_readLog.of_isValueOf rfl hlogging, readPaths_toData _, readDocs_toData _,
    readLint_toData _, readTypegen_toData _⟩

theorem readSettings_toData_of_loadSettings {surroundings : Surroundings}
    {userFile projectFile : SettingsFile} {overrides : Keyed Data Scalar} {s : Settings}
    (h : loadSettings surroundings userFile projectFile overrides = .ok s) :
    readSettings surroundings.homes s.toData = .valid s := by
  obtain ⟨project, -, h⟩ := bind_eq_ok_iff.1 h
  obtain ⟨sections, -, h⟩ := bind_eq_ok_iff.1 h
  obtain ⟨user, -, h⟩ := bind_eq_ok_iff.1 h
  obtain ⟨given, -, hread⟩ := readSections_of_settingsOf h
  exact readSettings_toData_of_readSections hread

/-- Each section, and all sections together, read again what has been read of them.  So the settings
that are loaded pass the second check as they are. -/
structure SettingsReadAgain (surroundings : Surroundings) : Prop where
  logOutput : ReadsAgain (readLogOutput surroundings.homes) LogOutput.toData
  log : ReadsAgain (readLog surroundings.homes) LogSettings.toData
  paths : ReadsAgain readPaths PathSettings.toData
  docs : ReadsAgain readDocs DocSettings.toData
  lint : ReadsAgain readLint LintSettings.toData
  typegen : ReadsAgain readTypegen TypeSettings.toData
  settings : ReadsAgain (readSettings surroundings.homes) Settings.toData
  loaded : ∀ userFile projectFile overrides,
    recheckedSettings surroundings userFile projectFile overrides =
      (loadSettings surroundings userFile projectFile overrides).map .valid

/-- Whatever form the settings are read from, their written form is read as the same. -/
theorem settingsReadAgain (surroundings : Surroundings) : SettingsReadAgain surroundings where
  logOutput := readsAgain_readLogOutput
  log := readsAgain_readLog
  paths := fun _ s _ => readPaths_toData s
  docs := fun _ s _ => readDocs_toData s
  lint := fun _ s _ => readLint_toData s
  typegen := fun _ s _ => readTypegen_toData s
  settings := by
    intro d s h
    obtain ⟨sections, -, hread⟩ := readSection_eq_valid_iff.1 h
    exact readSettings_toData_of_readSections hread
  loaded := by
    intro userFile projectFile overrides
    rw [recheckedSettings]
    cases hload : loadSettings surroundings userFile projectFile overrides with
    | error fault => rfl
    | ok s => exact congrArg Except.ok (readSettings_toData_of_loadSettings hload)

/-- Files below the homes of two users, and limits that are not stated as integers. -/
theorem settingsReadAgain_coerced :
    let homes : Homes := ⟨some "/home/u/", fun user => if user = "root" then some "" else none⟩
    let d := Data.record [
      ("logging", .record [("outputs", .list [.record [("destination", .text "~//logs/./a.log")],
        .record [("destination", .text "~root/b.log")]])]),
      ("docs", .record [("erd_max_models", .text " +030.0"), ("entity_field_limit", .bool true)]),
      ("lint", .record [("timestamp_fields", .list [.text "made", .text "changed"])])]
    ∃ s : Settings, readSettings homes d = .valid s ∧
      s.logging.outputs.map LogOutput.destination =
        [.file "/home/u/logs/a.log", .file "/b.log"] ∧
      s.docs.erdMaxModels.val = 30 ∧ s.docs.entityFieldLimit.val = 1 ∧
      s.lint.timestampFields = ("made", "changed") ∧
      readSettings homes s.toData = .valid s := by
  intro homes d
  let s : Settings :=
    { logging := { outputs := [{ destination := .file "/home/u/logs/a.log" },
        { destination := .file "/b.log" }] }
      docs := { erdMaxModels := ⟨30, by decide⟩, entityFieldLimit := ⟨1, by decide⟩ }
      lint := { timestampFields := ("made", "changed") } }
  have hread : readSettings homes d = .valid s := by rfl
  exact ⟨s, hread, rfl, rfl, rfl, rfl, (settingsReadAgain { homes }).settings d s hread⟩

end SchemaAtlas

import SchemaAtlas.Proofs.Settings.ProjectFile
import SchemaAtlas.Proofs.Settings.Variables

/-!
# Which source decides a setting

`statedFirst` is what the first source states for a setting that states anything for it: the
overrides come first, then the environment, the file of the project and the file of the user.

Main result: loaded settings have what is stated first, each checked and read on its own, and their
defaults where nothing is stated (`hasValueOf_of_loadSettings`).
-/

namespace SchemaAtlas

open Keyed

/-- What is stated for a setting by the first source that states anything for it, where `user` and
`project` are what the two files state. -/
def statedFirst (surroundings : Surroundings) (user project overrides : Keyed Data Scalar)
    (sectionName name : String) : Option Data :=
  [statedIn overrides sectionName name, variableStates surroundings sectionName name,
    projectStates project sectionName name, statedIn user sectionName name].findSome? id

theorem statedFirst_eq_or (surroundings : Surroundings)
    (user project overrides : Keyed Data Scalar) (sectionName name : String) :
    statedFirst surroundings user project overrides sectionName name =
      ((statedIn overrides sectionName name).or
        (variableStates surroundings sectionName name)).or
        ((projectStates project sectionName name).or (statedIn user sectionName name)) := by
  rw [statedFirst]
  cases statedIn overrides sectionName name <;>
    cases variableStates surroundings sectionName name <;>
    cases projectStates project sectionName name <;>
    cases statedIn user sectionName name <;> rfl

/-! ### What is read -/

section

variable {homes : Homes} {s : Settings}

theorem acceptWithin_eq_ok_iff {α : Type} {depth : Nat} {x : Checked α} {a : α} :
    acceptWithin depth x = .ok a ↔ x = .valid a := by
  cases x with
  | valid b => simp [acceptWithin, accept_eq_ok_iff]
  | invalid v more => simp only [acceptWithin]; split <;> simp [accept_eq_ok_iff]
  | homeless => simp [acceptWithin, accept_eq_ok_iff]

theorem readSections_of_readRoot {entries : Keyed Data} (h : readRoot homes entries = .valid s) :
    readSections homes (Data.textKeyed entries) = .valid s := by
  rw [readRoot] at h
  split at h
  · exact h
  · generalize Checked.map _ (readSections homes (Data.textKeyed entries)) = x at h
    cases x <;> simp [Checked.both] at h

theorem isSome_entries?_of_readSections {sections : Keyed Data Scalar}
    (h : readSections homes sections = .valid s) :
    ∀ sectionName ∈ sectionNames, ∀ d ∈ sections.get? sectionName, d.entries?.isSome := by
  have hmapping : ∀ {σ : Type} {title : String} {read : Keyed Data Scalar → Checked σ}
      {o : Option Data} {standard a : σ}, IsValueOf o (readSection title read) standard a →
      ∀ d ∈ o, d.entries?.isSome := by
    rintro σ title read _ standard a hvalue d rfl
    obtain ⟨entries, rfl, -⟩ := readSection_eq_valid_iff.1 hvalue
    rfl
  obtain ⟨hlogging, hpaths, hdocs, hlint, htypegen⟩ := readSections_eq_valid_iff.1 h
  simp only [sectionNames, List.forall_mem_cons]
  exact ⟨hmapping hlogging, hmapping hpaths, hmapping hdocs, hmapping hlint, hmapping htypegen,
    List.forall_mem_nil _⟩

theorem entries?_eq_none_of_read : ∀ e ∈ Setting.all homes, ∀ d a, e.read d = .valid a →
    d.entries? = none := by
  have hmapping : ∀ e ∈ Setting.all homes, ∀ entries a, e.read (.mapping entries) ≠ .valid a := by
    simp only [Setting.all, logEntries, pathEntries, docEntries, lintEntries, typeEntries,
      List.map, List.forall_mem_append, List.forall_mem_cons, List.not_mem_nil, false_imp_iff,
      implies_true, and_true]
    and_intros
    all_goals
      intro entries a h
      cases h
  intro e he d a h
  cases d with
  | mapping entries => exact absurd h (hmapping e he entries a)
  | scalar _ => rfl
  | list _ => rfl

theorem mem_entryNames_of_mem : ∀ e ∈ Setting.all homes,
    e.sectionName ∈ sectionNames ∧ e.name ∈ entryNames e.sectionName := by
  simp [Setting.all, logEntries, pathEntries, docEntries, lintEntries, typeEntries,
    Setting.ofEntry, sectionNames, entryNames]

end

/-! ### The sources -/

section

variable {surroundings : Surroundings} {user project overrides : Keyed Data Scalar}

/-- The sections of the sources laid over each other. -/
def sourceSections (user project : Keyed Data Scalar) (given : Keyed Data)
    (overrides : Keyed Data Scalar) : Keyed Data Scalar :=
  Data.overlayEntries (Data.overlayEntries user project)
    (Data.overlayEntries (Data.textKeyed given) overrides)

theorem mergedSections_eq_ok_iff {sections : Keyed Data Scalar} :
    mergedSections surroundings user project overrides = .ok sections ↔
      ∃ given, environmentEntries surroundings = .ok given ∧
        sourceSections user project given overrides = sections := by
  rw [mergedSections]
  cases environmentEntries surroundings with
  | error fault => cases fault <;> exact ⟨nofun, fun ⟨_, hgiven, _⟩ => nomatch hgiven⟩
  | ok given =>
    constructor
    · exact fun h => ⟨given, rfl, Except.ok.inj h⟩
    · rintro ⟨_, hgiven, rfl⟩
      obtain rfl := Except.ok.inj hgiven
      rfl

/-- The sections of the sources that are read. -/
theorem readSections_of_settingsOf {s : Settings}
    (h : settingsOf surroundings user project overrides = .ok s) :
    ∃ given, environmentEntries surroundings = .ok given ∧
      readSections surroundings.homes (sourceSections user project given overrides) =
        .valid s := by
  obtain ⟨sections, hsections, h⟩ := bind_eq_ok_iff.1 h
  obtain ⟨given, hgiven, rfl⟩ := mergedSections_eq_ok_iff.1 hsections
  refine ⟨given, hgiven, ?_⟩
  split at h
  · rename_i named hnamed
    rw [← Data.textKeyed_of_textKeyed? hnamed]
    exact readSections_of_readRoot (acceptWithin_eq_ok_iff.1 h)
  · cases h

section

variable {given : Keyed Data} {sectionName : String}

theorem get?_sources (hproject : project.Once (.text sectionName)) (hgiven : given.keys.Nodup)
    (hoverrides : Data.IsProper (.mapping overrides)) :
    (sourceSections user project given overrides).get? (.text sectionName) =
      Data.overlay?
        (Data.overlay? (user.get? sectionName) (project.get? sectionName))
        (Data.overlay? (given.get? sectionName) (overrides.get? sectionName)) := by
  have honce := once_of_nodup (Data.nodup_keys_textKeyed hgiven) (.text sectionName)
  rw [sourceSections, Data.get?_overlayEntries (Data.once_overlayEntries honce),
    Data.get?_overlayEntries hproject, Data.get?_overlayEntries (hoverrides.once sectionName),
    Data.get?_textKeyed]

/-- What the sources state together for a setting is what they state, laid over each other. -/
theorem statedIn_sources {name : String} (hproject : project.Once (.text sectionName))
    (hinner : ∀ d ∈ project.get? sectionName, d.HasOnce name)
    (hgiven : given.keys.Nodup)
    (hvariables : ∀ d ∈ given.get? sectionName, d.HasOnce name)
    (hoverrides : Data.IsProper (.mapping overrides))
    (hmapping : ∀ d ∈ overrides.get? sectionName, d.entries?.isSome) :
    statedIn (sourceSections user project given overrides) sectionName name =
      Data.overlay?
        (Data.overlay? (statedIn user sectionName name) (statedIn project sectionName name))
        (Data.overlay? ((given.get? sectionName).bind (Data.valueAt? · name))
          (statedIn overrides sectionName name)) := by
  have hinner' : ∀ d ∈ overrides.get? sectionName, d.HasOnce name := fun d hd =>
    (hoverrides.of_get? hd).hasOnce (hmapping d hd) name
  rw [statedIn, get?_sources hproject hgiven hoverrides,
    Data.bind_valueAt?_overlay? (Data.hasOnce_overlay? hvariables hinner'),
    Data.bind_valueAt?_overlay? hinner, Data.bind_valueAt?_overlay? hinner']
  rfl

end

theorem loadSettings_eq {userFile projectFile : SettingsFile} {entries : Keyed Data Scalar}
    (hproject : surroundings.entriesOf projectFile = .ok entries)
    (huser : surroundings.entriesOf userFile = .ok user) :
    loadSettings surroundings userFile projectFile overrides =
      projectSections entries >>= fun sections =>
        settingsOf surroundings user sections overrides := by
  rw [loadSettings, hproject, huser]
  rfl

/-- A file that is read states what its text does. -/
theorem entriesOf_eq_ok_iff {file : SettingsFile} {entries : Keyed Data Scalar} :
    surroundings.entriesOf file = .ok entries ↔
      file.text.all surroundings.follows ∧ file.entries = .ok entries := by
  rw [Surroundings.entriesOf]
  split
  · rename_i hfollows
    exact (and_iff_right hfollows).symm
  · rename_i hfollows
    exact iff_of_false nofun fun h => hfollows h.1

/-- Settings that are loaded have what is stated first for them, or else their defaults. -/
theorem hasValueOf_of_loadSettings {userFile projectFile : SettingsFile} {s : Settings}
    (hproject : projectFile.entries = .ok project) (huser : userFile.entries = .ok user)
    (hoverrides : Data.IsProper (.mapping overrides))
    (henvironment : NamesSettings surroundings.environment)
    (h : loadSettings surroundings userFile projectFile overrides = .ok s) :
    ∀ e ∈ Setting.all surroundings.homes, e.HasValueOf
      (statedFirst surroundings user project overrides e.sectionName e.name) {} s := by
  obtain ⟨found, hfound, h⟩ := bind_eq_ok_iff.1 h
  obtain rfl := Except.ok.inj (hproject.symm.trans (entriesOf_eq_ok_iff.1 hfound).2)
  obtain ⟨sections, hsections, h⟩ := bind_eq_ok_iff.1 h
  obtain ⟨found, hfound, h⟩ := bind_eq_ok_iff.1 h
  obtain rfl := Except.ok.inj (huser.symm.trans (entriesOf_eq_ok_iff.1 hfound).2)
  obtain ⟨given, hgiven, hread⟩ := readSections_of_settingsOf h
  obtain ⟨hnodup, hvariables⟩ := statedIn_environmentEntries henvironment hgiven
  intro e he
  obtain ⟨hsection, hname⟩ := mem_entryNames_of_mem e he
  obtain ⟨honce, hentries⟩ :=
    statedIn_projectSections (isProper_of_entries hproject) hsections _ hsection
  obtain ⟨hinner, hproject⟩ := hentries _ hname
  obtain ⟨hgivenOnce, hgivenStates⟩ := hvariables _ hsection
  -- A section of the overrides is a mapping, since nothing is laid over it.
  have hmapping : ∀ d ∈ overrides.get? e.sectionName, d.entries?.isSome := by
    have hread := isSome_entries?_of_readSections hread _ hsection
    rw [get?_sources honce hnodup hoverrides] at hread
    exact Data.isSome_entries?_of_overlay? (Data.isSome_entries?_of_overlay? hread)
  have hvalue := hasValueOf_of_readSections hread e he
  have hread : ∀ d ∈ statedIn (sourceSections user sections given overrides) e.sectionName e.name,
      d.entries? = none := by
    intro d hd
    rw [Option.mem_def.1 hd] at hvalue
    exact entries?_eq_none_of_read e he d _ hvalue
  rw [statedIn_sources honce hinner hnodup (fun d hd => hgivenOnce d hd _) hoverrides hmapping,
    hgivenStates _ hname, hproject] at hvalue hread
  rwa [statedFirst_eq_or, ← Data.overlay?_overlay?_eq_or hread]

/-- A level that two files and a variable state, and a path that two files state. -/
theorem hasValueOf_of_four_sources :
    let surroundings : Surroundings :=
      { homes := ⟨some "/", fun _ => none⟩
        environment := [("SCHEMAPLANE__LOGGING__LEVEL", "WARNING")] }
    ∃ s, loadSettings surroundings
        ⟨"user", some "logging:\n  level: ERROR\npaths:\n  docs_dir: b\n"⟩
        ⟨"project", some "docs_dir: a\nlog_level: DEBUG\n"⟩
        (Data.textKeyed [("lint", .record [("fail_on", .text "info")])]) = .ok s ∧
      s.logging.level = .warning ∧ s.paths.docsDir = "a" ∧ s.lint.failOn = .info ∧
      ∀ e ∈ Setting.all surroundings.homes, e.HasValueOf
        (statedFirst surroundings
          (Data.textKeyed [("logging", .record [("level", .text "ERROR")]),
            ("paths", .record [("docs_dir", .text "b")])])
          (Data.textKeyed [("docs_dir", .text "a"), ("log_level", .text "DEBUG")])
          (Data.textKeyed [("lint", .record [("fail_on", .text "info")])])
          e.sectionName e.name) {} s := by
  intro surroundings
  have hproject : (⟨"project", some "docs_dir: a\nlog_level: DEBUG\n"⟩ : SettingsFile).entries =
      .ok (Data.textKeyed [("docs_dir", .text "a"), ("log_level", .text "DEBUG")]) := by rfl
  have huser : (⟨"user", some "logging:\n  level: ERROR\npaths:\n  docs_dir: b\n"⟩ :
      SettingsFile).entries = .ok (Data.textKeyed [("logging", .record [("level", .text "ERROR")]),
        ("paths", .record [("docs_dir", .text "b")])]) := by rfl
  have hoverrides : Data.IsProper (.record [("lint", .record [("fail_on", .text "info")])]) := by
    refine Data.isProper_record (by decide) (List.forall_mem_singleton.2 ?_)
    exact Data.isProper_record (by decide) (List.forall_mem_singleton.2 (.scalar _))
  have henvironment : NamesSettings surroundings.environment := by
    unfold NamesSettings
    decide +kernel
  let s : Settings :=
    { logging := { level := .warning }
      paths := { docsDir := "a" }
      lint := { failOn := .info } }
  refine ⟨s, ?load, rfl, rfl, rfl, @hasValueOf_of_loadSettings
    surroundings _ _ _ _ _ _ hproject huser hoverrides henvironment ?load⟩
  exact toOption_eq_some_iff.1 (by decide +kernel)

end

end SchemaAtlas

import SchemaAtlas.Proofs.Settings.Entries
import SchemaAtlas.Proofs.Yaml.Values
import SchemaAtlas.Settings.Load

/-!
# Settings from the file of a project

`projectStates` says what the entries of a project's file state for a setting: the paths and the log
level may stand outside any section, and the paths stand nowhere else.

Main statement: that is what the sections of the file state (`statedIn_projectSections`).
-/

namespace SchemaAtlas

open Keyed

/-- What a project's file states for an entry of a section.  The paths are entries of their own, and
so is the log level, which the log section comes before. -/
def projectStates (entries : Keyed Data Scalar) (sectionName name : String) : Option Data :=
  if sectionName = "paths" then entries.get? name
  else if sectionName = "logging" ∧ name = "level" then
    (statedIn entries sectionName name).or (entries.get? "log_level")
  else statedIn entries sectionName name

/-- A text states the entries of its value, none if it is blank. -/
theorem fileEntries_eq_ok_iff {path text : String} {entries : Keyed Data Scalar} :
    fileEntries path (some text) = .ok entries ↔
      ∃ d, Data.ofYaml text = .ok d ∧
        if d.isBlank then entries = [] else d = .mapping entries := by
  rw [fileEntries]
  cases Data.ofYaml text with
  | error fault => cases fault <;> simp
  | ok d =>
    have hentries : d.entries? = some entries ↔ d = .mapping entries := by
      cases d <;> simp [Data.entries?]
    simp only [Except.ok.injEq, exists_eq_left']
    by_cases hblank : d.isBlank
    · rw [if_pos hblank, if_pos hblank]
      exact ⟨fun h => (Except.ok.inj h).symm, fun h => congrArg Except.ok h.symm⟩
    · rw [if_neg hblank, if_neg hblank, ← hentries]
      cases d.entries? with
      | none => simp
      | some found => simp

/-- A file names no entry twice. -/
theorem isProper_of_entries {file : SettingsFile} {entries : Keyed Data Scalar}
    (h : file.entries = .ok entries) : Data.IsProper (.mapping entries) := by
  have hnone : Data.IsProper (.mapping []) :=
    .mapping [] (fun _ => once_of_notMem List.not_mem_nil) fun _ => nofun
  rw [SettingsFile.entries] at h
  cases htext : file.text with
  | none =>
    rw [htext] at h
    obtain rfl := Except.ok.inj h
    exact hnone
  | some text =>
    rw [htext, fileEntries_eq_ok_iff] at h
    obtain ⟨d, hd, hentries⟩ := h
    split at hentries
    · rwa [hentries]
    · rw [← hentries]
      exact (Yaml.isWellKeyed_of_ofYaml hd).isProper

/-! ### Values that are texts -/

theorem readText_eq_valid_iff {d : Data} {s : String} : readText d = .valid s ↔ d = .text s := by
  cases d with
  | scalar a => cases a <;> simp [readText, Checked.reject]
  | list items => simp [readText, Checked.reject]
  | mapping entries => simp [readText, Checked.reject]

theorem eq_text_of_readChoice {α : Type} {choices : List α} {name : α → String} {d : Data} {a : α}
    (h : readChoice choices name d = .valid a) : d = .text (name a) := by
  cases d with
  | list items => simp [readChoice, Checked.reject] at h
  | mapping entries => simp [readChoice, Checked.reject] at h
  | scalar b =>
    cases b with
    | text s =>
      simp only [readChoice] at h
      split at h
      · rename_i c hfind
        obtain rfl := Checked.valid.inj h
        have hname : name c = s := by simpa using List.find?_some hfind
        rw [hname]
      · simp [Checked.reject] at h
    | _ => simp [readChoice, Checked.reject] at h

/-! ### Entries without a section -/

theorem accept_eq_ok_iff {α : Type} {x : Checked α} {a : α} : accept x = .ok a ↔ x = .valid a := by
  cases x with
  | valid b => simp [accept]
  | invalid v more => simp only [accept]; split <;> simp
  | homeless => simp [accept]

section

variable {entries : Keyed Data Scalar} {user : UserSettings}

theorem contains_stated_iff {name : String} :
    (entries.keys.filterMap Scalar.text?).contains name ↔ (entries.get? name).isSome := by
  have htext : ∀ key : Scalar, key.text? = some name ↔ key = .text name := by
    intro key
    cases key <;> simp [Scalar.text?]
  simp [isSome_get?_iff, List.mem_filterMap, htext]

/-- The values that are read of the entries without a section. -/
theorem userSettings_eq_ok_iff : userSettings entries = .ok user ↔
    ∀ e ∈ userEntries, IsValueOf (entries.get? e.name) e.read (e.value {}) (e.value user) := by
  have hget : ∀ e ∈ userEntries,
      get? (entries.filter fun f => f.1.text?.any flatNames.contains) e.name =
        entries.get? e.name := by
    have hnames : ∀ e ∈ userEntries, (Scalar.text e.name).text?.any flatNames.contains := by
      simp [userEntries, flatNames, Scalar.text?]
    intro e he
    rw [get?_filter fun key : Scalar => key.text?.any flatNames.contains, if_pos (hnames e he)]
  rw [userSettings, accept_eq_ok_iff, readUser_eq_valid_iff]
  constructor
  · rintro ⟨flat, hflat, hread⟩ e he
    obtain rfl := Data.mapping.inj hflat
    rw [← hget e he]
    exact hread e he
  · intro h
    refine ⟨_, rfl, fun e he => ?_⟩
    rw [SectionEntry.IsReadFrom, hget e he]
    exact h e he

/-- A setting that is read from a text is written as what the file states, if it states any. -/
theorem if_stated_text {α : Type} {name : String} {read : Data → Checked α} {fallback a : α}
    (write : α → String) (hread : ∀ d b, read d = .valid b → d = .text (write b))
    (h : IsValueOf (entries.get? name) read fallback a) :
    (if (entries.keys.filterMap Scalar.text?).contains name then some (Data.text (write a))
      else none) = entries.get? name := by
  rw [if_congr contains_stated_iff rfl rfl]
  cases hget : entries.get? name with
  | none => rfl
  | some d =>
    rw [hget] at h
    rw [hread d a h]
    rfl

end

/-! ### The sections of the entries without one -/

section

/-- The sections that some paths and the log level make. -/
def sectionsOf (paths : Keyed String) (level : Option String) : Keyed Data :=
  (if paths.isEmpty then [] else [("paths", .record (paths.map fun e => (e.1, .text e.2)))]) ++
    (level.map fun name => ("logging", .record [("level", .text name)])).toList

variable {paths : Keyed String} {level : Option String}

theorem statedIn_sectionsOf_paths (name : String) :
    ((sectionsOf paths level).get? "paths").bind (Data.valueAt? · name) =
      (paths.get? name).map Data.text := by
  cases paths with
  | nil => cases level <;> rfl
  | cons e paths =>
    show get? (Data.textKeyed ((e :: paths).map fun e => (e.1, Data.text e.2))) name = _
    rw [Data.get?_textKeyed, get?_map]

theorem statedIn_sectionsOf_logging (name : String) :
    ((sectionsOf paths level).get? "logging").bind (Data.valueAt? · name) =
      if name = "level" then level.map Data.text else none := by
  have hpaths : (sectionsOf paths level).get? "logging" = (sectionsOf [] level).get? "logging" := by
    cases paths <;> rfl
  rw [hpaths]
  cases level with
  | none => split <;> rfl
  | some level =>
    show get? [(Scalar.text "level", Data.text level)] (Scalar.text name) = _
    simp [get?_cons, eq_comm]

theorem nodup_keys_sectionsOf : (sectionsOf paths level).keys.Nodup := by
  cases paths <;> cases level <;> simp [sectionsOf, keys]

theorem hasOnce_sectionsOf (h : paths.keys.Nodup) {sectionName : String} {d : Data}
    (hd : d ∈ (sectionsOf paths level).get? sectionName) (key : Scalar) : d.HasOnce key := by
  have hrecord : ∀ {entries : Keyed Data}, entries.keys.Nodup → (Data.record entries).HasOnce key :=
    fun h => ⟨_, rfl, once_of_nodup (Data.nodup_keys_textKeyed h) key⟩
  have hkeys : (keys (paths.map fun e => (e.1, Data.text e.2))) = paths.keys := by
    simp [keys, Function.comp_def]
  rcases List.mem_append.1 (mem_of_get?_eq_some hd) with hpaths | hlevel
  · split at hpaths
    · cases hpaths
    · obtain ⟨-, rfl⟩ := Prod.mk.inj (List.mem_singleton.1 hpaths)
      exact hrecord (hkeys ▸ h)
  · cases level with
    | none => cases hlevel
    | some name =>
      obtain ⟨-, rfl⟩ := Prod.mk.inj (List.mem_singleton.1 hlevel)
      exact hrecord (List.nodup_singleton _)

theorem get?_sectionsOf_of_ne {sectionName : String} (hpaths : sectionName ≠ "paths")
    (hlogging : sectionName ≠ "logging") : (sectionsOf paths level).get? sectionName = none := by
  cases paths <;> cases level <;> simp [sectionsOf, get?_cons, hpaths.symm, hlogging.symm]

end

section

variable {entries : Keyed Data Scalar} {user : UserSettings}

theorem flatSections_eq (user : UserSettings) (stated : List String) :
    flatSections user stated =
      sectionsOf ([("schema_path", user.schemaPath), ("docs_dir", user.docsDir),
        ("types_path", user.typesPath)].filter fun e => stated.contains e.1)
        (if stated.contains "log_level" then some user.logLevel.name else none) := by
  by_cases h : "log_level" ∈ stated <;> simp [flatSections, sectionsOf, h]

/-- The path section has the paths that the file states. -/
theorem statedIn_flatSections_paths (h : userSettings entries = .ok user) {name : String}
    (hname : name ∈ entryNames "paths") :
    ((flatSections user (entries.keys.filterMap Scalar.text?)).get? "paths").bind
      (Data.valueAt? · name) = entries.get? name := by
  have hvalues := userSettings_eq_ok_iff.1 h
  simp only [userEntries, List.forall_mem_cons] at hvalues
  obtain ⟨hschema, hdocs, htypes, -⟩ := hvalues
  have htext : ∀ d s, readText d = .valid s → d = .text (id s) := fun _ _ =>
    readText_eq_valid_iff.1
  have hnames : name = "schema_path" ∨ name = "docs_dir" ∨ name = "types_path" := by
    simpa [entryNames] using hname
  rw [flatSections_eq, statedIn_sectionsOf_paths, get?_filter, apply_ite (Option.map Data.text)]
  obtain rfl | rfl | rfl := hnames
  · exact if_stated_text id htext hschema
  · exact if_stated_text id htext hdocs
  · exact if_stated_text id htext htypes

/-- The log section has the level that the file states, and nothing else. -/
theorem statedIn_flatSections_logging (h : userSettings entries = .ok user) (name : String) :
    ((flatSections user (entries.keys.filterMap Scalar.text?)).get? "logging").bind
      (Data.valueAt? · name) = if name = "level" then entries.get? "log_level" else none := by
  have hlevel := userSettings_eq_ok_iff.1 h ⟨"log_level", _, readLevel, UserSettings.logLevel⟩
    (by simp [userEntries])
  rw [flatSections_eq, statedIn_sectionsOf_logging, apply_ite (Option.map Data.text),
    ← if_stated_text LogLevel.name (fun _ _ => eq_text_of_readChoice) hlevel]
  rfl

theorem entries?_of_stated_level (h : userSettings entries = .ok user) :
    ∀ d ∈ entries.get? "log_level", d.entries? = none := by
  intro d hd
  have hlevel := userSettings_eq_ok_iff.1 h ⟨"log_level", _, readLevel, UserSettings.logLevel⟩
    (by simp [userEntries])
  rw [Option.mem_def.1 hd] at hlevel
  rw [eq_text_of_readChoice hlevel]
  rfl

/-! ### The sections of a file -/

theorem carriedEntries_eq (entries : Keyed Data Scalar) :
    carriedEntries entries = carriedSections.filterMap fun (name : String) =>
      ((entries.get? name).filter fun d => d.entries?.isSome).map fun d => (name, d) := by
  unfold carriedEntries
  congr 1
  funext name
  cases entries.get? name with
  | none => rfl
  | some d => cases d <;> rfl

theorem get?_carriedEntries (entries : Keyed Data Scalar) (sectionName : String) :
    (carriedEntries entries).get? sectionName =
      if sectionName ∈ carriedSections then
        (entries.get? sectionName).filter fun d => d.entries?.isSome
      else none := by
  rw [carriedEntries_eq]
  exact get?_filterMap carriedSections _ sectionName

theorem nodup_keys_carriedEntries (entries : Keyed Data Scalar) :
    (carriedEntries entries).keys.Nodup := by
  have hnodup : carriedSections.Nodup := by decide
  rw [carriedEntries_eq]
  exact (keys_filterMap_sublist carriedSections _).nodup hnodup

theorem statedIn_carriedEntries (entries : Keyed Data Scalar) (sectionName name : String) :
    ((carriedEntries entries).get? sectionName).bind (Data.valueAt? · name) =
      if sectionName ∈ carriedSections then statedIn entries sectionName name else none := by
  rw [get?_carriedEntries, statedIn]
  split
  · cases entries.get? sectionName with
    | none => rfl
    | some d => cases d <;> rfl
  · rfl

variable {sections : Keyed Data Scalar}

theorem hasOnce_carriedEntries (h : (Data.mapping entries).IsProper) {sectionName : String}
    {d : Data} (hd : d ∈ (carriedEntries entries).get? sectionName) (name : String) :
    d.HasOnce name := by
  rw [get?_carriedEntries] at hd
  split at hd
  · obtain ⟨hget, hmapping⟩ := Option.filter_eq_some_iff.1 hd
    exact (h.of_get? hget).hasOnce hmapping name
  · cases hd

/-- What the sections of a project's file have is what the file states. -/
theorem statedIn_projectSections (hproper : (Data.mapping entries).IsProper)
    (h : projectSections entries = .ok sections) :
    ∀ sectionName ∈ sectionNames, sections.Once (.text sectionName) ∧
      ∀ name ∈ entryNames sectionName,
        (∀ d ∈ sections.get? sectionName, d.HasOnce name) ∧
        statedIn sections sectionName name = projectStates entries sectionName name := by
  obtain ⟨user, huser, hsections⟩ := bind_eq_ok_iff.1 h
  obtain rfl := Except.ok.inj hsections
  intro sectionName hsection
  refine ⟨Data.once_overlayEntries (once_of_nodup ?_ _), fun name hname => ?_⟩
  · rw [flatSections_eq]
    exact Data.nodup_keys_textKeyed nodup_keys_sectionsOf
  rw [statedIn, Data.get?_overlayEntries
    (once_of_nodup (Data.nodup_keys_textKeyed (nodup_keys_carriedEntries entries)) _),
    Data.get?_textKeyed, Data.get?_textKeyed]
  have hcarried : ∀ d ∈ (carriedEntries entries).get? sectionName, d.HasOnce name := fun _ hd =>
    hasOnce_carriedEntries hproper hd name
  refine ⟨Data.hasOnce_overlay? (fun d hd => ?_) hcarried, ?_⟩
  · rw [flatSections_eq] at hd
    exact hasOnce_sectionsOf (List.Nodup.sublist (List.filter_sublist.map _) (by simp)) hd name
  rw [Data.bind_valueAt?_overlay? hcarried, statedIn_carriedEntries]
  by_cases hpaths : sectionName = "paths"
  · subst hpaths
    rw [statedIn_flatSections_paths huser hname]
    rfl
  have hmem : sectionName ∈ carriedSections := by
    have hnames : ∀ s ∈ sectionNames, s ≠ "paths" → s ∈ carriedSections := by decide
    exact hnames sectionName hsection hpaths
  rw [if_pos hmem, projectStates, if_neg hpaths]
  by_cases hlogging : sectionName = "logging"
  · subst hlogging
    rw [statedIn_flatSections_logging huser]
    by_cases hlevel : name = "level"
    · rw [if_pos hlevel, if_pos ⟨rfl, hlevel⟩]
      exact Data.overlay?_eq_or_of_lower (entries?_of_stated_level huser)
    · rw [if_neg hlevel, if_neg fun hboth => hlevel hboth.2]
      exact Data.none_overlay? _
  · rw [flatSections_eq, get?_sectionsOf_of_ne hpaths hlogging,
      if_neg fun hboth => hlogging hboth.1]
    exact Data.none_overlay? _

end

end SchemaAtlas

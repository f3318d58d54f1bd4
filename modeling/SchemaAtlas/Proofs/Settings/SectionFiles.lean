import SchemaAtlas.Proofs.Settings.Precedence

/-!
# Sections in either file

A file whose entries are sections may be the file of the user or that of the project.  The project's
file carries every section but that of the paths, which it states without a section.

Main result: the settings are the same from either file, apart from the paths
(`loadSettings_sections`).
-/

namespace SchemaAtlas

open Keyed

/-- Every key is the name of a section. -/
def NamesSections (sections : Keyed Data Scalar) : Prop :=
  ∀ key ∈ sections.keys, ∃ name ∈ sectionNames, key = .text name

section

variable {surroundings : Surroundings} {homes : Homes} {sections user project : Keyed Data Scalar}
  {s : Settings}

/-! ### Names of sections -/

theorem readRoot_of_mem {named : Keyed Data} (h : ∀ e ∈ named, e.1 ∈ sectionNames) :
    readRoot homes named = readSections homes (Data.textKeyed named) := by
  have hstrangers : named.filter (fun e => !sectionNames.contains e.1) = [] := by
    simpa [List.filter_eq_nil_iff] using h
  rw [readRoot, hstrangers]

theorem environmentEntries_of_eq_nil (h : surroundings.environment = []) :
    environmentEntries surroundings = .ok [] := by
  rw [environmentEntries, h]
  rfl

/-- Sections that are read one by one are the settings of the two files that have them. -/
theorem settingsOf_sections (henvironment : surroundings.environment = [])
    (h : NamesSections (Data.overlayEntries user project))
    (hread : readSections surroundings.homes (Data.overlayEntries user project) = .valid s) :
    settingsOf surroundings user project [] = .ok s := by
  have hmerged : mergedSections surroundings user project [] =
      .ok (Data.overlayEntries user project) := by
    refine mergedSections_eq_ok_iff.2 ⟨[], environmentEntries_of_eq_nil henvironment, ?_⟩
    rw [sourceSections, Data.overlayEntries_nil, Data.textKeyed, List.map_nil,
      Data.overlayEntries_nil]
  obtain ⟨named, hnamed, hmem⟩ := Data.exists_eq_textKeyed h
  refine bind_eq_ok_iff.2 ⟨_, hmerged, ?_⟩
  rw [hnamed, Data.textKeyed?_textKeyed]
  show acceptWithin _ (readRoot surroundings.homes named) = _
  rw [acceptWithin_eq_ok_iff, readRoot_of_mem hmem, ← hnamed, hread]

/-! ### The sections that a project's file carries -/

theorem NamesSections.get?_flat (h : NamesSections sections) :
    ∀ name ∈ flatNames, sections.get? (.text name) = none := by
  have hnames : ∀ name ∈ flatNames, name ∉ sectionNames := by decide
  intro name hname
  rw [← Option.not_isSome_iff_eq_none, isSome_get?_iff]
  intro hkey
  obtain ⟨other, hother, heq⟩ := h _ hkey
  exact hnames name hname (Scalar.text.inj heq ▸ hother)

theorem flatSections_eq_nil {user : UserSettings} {stated : List String}
    (h : ∀ name ∈ flatNames, stated.contains name = false) : flatSections user stated = [] := by
  simp only [flatNames, List.forall_mem_cons] at h
  obtain ⟨hschema, hdocs, htypes, hlevel, -⟩ := h
  rw [flatSections_eq, hlevel]
  simp only [List.filter_cons, hschema, hdocs, htypes]
  rfl

/-- Nothing but sections is left of a file that has nothing else. -/
theorem projectSections_of_namesSections (h : NamesSections sections) :
    projectSections sections = .ok (Data.textKeyed (carriedEntries sections)) := by
  have hflat : sections.filter (fun e => e.1.text?.any flatNames.contains) = [] := by
    rw [List.filter_eq_nil_iff]
    intro e he hname
    obtain ⟨other, hother, heq⟩ := h _ (List.mem_map_of_mem he)
    have hnames : ∀ name ∈ sectionNames, ¬ flatNames.contains name := by decide
    rw [heq] at hname
    exact hnames other hother hname
  have huser : userSettings sections = .ok {} := by
    rw [userSettings, hflat]
    rfl
  have hstated : flatSections {} (sections.keys.filterMap Scalar.text?) = [] := by
    refine flatSections_eq_nil fun name hname => ?_
    rw [← Bool.not_eq_true, contains_stated_iff, h.get?_flat name hname]
    exact Bool.false_ne_true
  rw [projectSections, huser]
  show Except.ok (Data.overlayEntries (Data.textKeyed (flatSections {} _)) _) = _
  rw [hstated, Data.textKeyed, List.map_nil, Data.overlayEntries_nil_left
    (Data.hasDistinctKeys_textKeyed (nodup_keys_carriedEntries sections))]

theorem namesSections_carriedEntries (sections : Keyed Data Scalar) :
    NamesSections (Data.textKeyed (carriedEntries sections)) := by
  have hnames : ∀ name ∈ carriedSections, name ∈ sectionNames := by decide
  intro key hkey
  obtain ⟨name, hname, rfl⟩ := Data.mem_keys_textKeyed hkey
  rw [carriedEntries_eq] at hname
  exact ⟨name, hnames _ ((keys_filterMap_sublist _ _).subset hname), rfl⟩

theorem get?_carriedEntries_of_readSections (hread : readSections homes sections = .valid s) :
    ∀ name ∈ carriedSections, (carriedEntries sections).get? name = sections.get? name := by
  have hnames : ∀ name ∈ carriedSections, name ∈ sectionNames := by decide
  intro name hname
  rw [get?_carriedEntries, if_pos hname]
  cases hget : sections.get? name with
  | none => rfl
  | some d =>
    rw [Option.filter_some,
      if_pos (isSome_entries?_of_readSections hread _ (hnames _ hname) d hget)]

/-- A project's file has all settings of its sections but the paths. -/
theorem readSections_carriedEntries (hread : readSections homes sections = .valid s) :
    readSections homes (Data.textKeyed (carriedEntries sections)) =
      .valid { s with paths := {} } := by
  have hget := get?_carriedEntries_of_readSections hread
  have hpaths : (carriedEntries sections).get? "paths" = none := by
    rw [get?_carriedEntries]
    rfl
  simp only [carriedSections, List.forall_mem_cons] at hget
  obtain ⟨hdocs, hlint, htypegen, hlogging, -⟩ := hget
  rw [readSections_eq_valid_iff] at hread ⊢
  simp only [Data.get?_textKeyed, hdocs, hlint, htypegen, hlogging, hpaths]
  exact ⟨hread.1, rfl, hread.2.2⟩

/-- The settings of either file, where the other states nothing. -/
theorem loadSettings_sections {file other : SettingsFile}
    (henvironment : surroundings.environment = [])
    (hfile : surroundings.entriesOf file = .ok sections)
    (hother : surroundings.entriesOf other = .ok []) (hnames : NamesSections sections)
    (hread : readSections surroundings.homes sections = .valid s) :
    loadSettings surroundings file other [] = .ok s ∧
      loadSettings surroundings other file [] = .ok { s with paths := {} } := by
  constructor
  · rw [loadSettings_eq hother hfile, bind_eq_ok_iff]
    refine ⟨[], rfl, settingsOf_sections henvironment ?_ ?_⟩ <;> rwa [Data.overlayEntries_nil]
  · have hnodup := Data.hasDistinctKeys_textKeyed (nodup_keys_carriedEntries sections)
    rw [loadSettings_eq hfile hother, bind_eq_ok_iff]
    refine ⟨_, projectSections_of_namesSections hnames,
      settingsOf_sections henvironment ?_ ?_⟩ <;> rw [Data.overlayEntries_nil_left hnodup]
    · exact namesSections_carriedEntries sections
    · exact readSections_carriedEntries hread

end

/-- A section for the documentation and one for the paths, in either file. -/
theorem loadSettings_two_sections :
    let surroundings : Surroundings := { homes := { own := some "/" } }
    loadSettings surroundings ⟨"a", some "docs:\n  models_dir: m\npaths:\n  docs_dir: d\n"⟩
        ⟨"b", none⟩ [] = .ok { docs := { modelsDir := "m" }, paths := { docsDir := "d" } } ∧
      loadSettings surroundings ⟨"b", none⟩
        ⟨"a", some "docs:\n  models_dir: m\npaths:\n  docs_dir: d\n"⟩ [] =
          .ok { docs := { modelsDir := "m" } } := by
  intro surroundings
  have hfile : surroundings.entriesOf
      ⟨"a", some "docs:\n  models_dir: m\npaths:\n  docs_dir: d\n"⟩ =
        .ok (Data.textKeyed [("docs", .record [("models_dir", .text "m")]),
          ("paths", .record [("docs_dir", .text "d")])]) := by rfl
  have hnames : NamesSections (Data.textKeyed [("docs", .record [("models_dir", .text "m")]),
      ("paths", .record [("docs_dir", .text "d")])]) := by
    unfold NamesSections
    decide +kernel
  exact loadSettings_sections rfl hfile rfl hnames rfl

/-- The schema is where the user's file says, and not where the project's file says the same. -/
theorem paths_of_either_file_differ :
    let surroundings : Surroundings := { homes := { own := some "/" } }
    (⟨"a", some "paths:\n  schema_path: a\n"⟩ : SettingsFile).entries =
        .ok (Data.textKeyed [("paths", .record [("schema_path", .text "a")])]) ∧
      loadSettings surroundings ⟨"a", some "paths:\n  schema_path: a\n"⟩ ⟨"b", none⟩ [] =
        .ok { paths := { schemaPath := "a" } } ∧
      loadSettings surroundings ⟨"b", none⟩ ⟨"a", some "paths:\n  schema_path: a\n"⟩ [] =
        .ok {} :=
  ⟨by rfl, toOption_eq_some_iff.1 (by decide +kernel), toOption_eq_some_iff.1 (by decide +kernel)⟩

end SchemaAtlas

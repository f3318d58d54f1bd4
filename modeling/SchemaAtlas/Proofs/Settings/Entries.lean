import SchemaAtlas.Proofs.Data.Overlay
import SchemaAtlas.Settings.Environment

/-!
# The entries of the settings

A `Setting` is an entry of a section: where it stands, how it is read and where its value is in the
settings.  Reading a section is reading its entries one by one (`readDocs_eq_valid_iff` and its
companions), so what is read of all sections can be said of every setting by itself.

Main statement: every setting has the value that its entry is read as, or its default if there is no
such entry (`hasValueOf_of_readSections`).
-/

namespace SchemaAtlas

open Keyed

/-! ### Accepted input -/

namespace Checked

variable {α β : Type}

@[simp] theorem map_eq_valid_iff {f : α → β} {x : Checked α} {b : β} :
    f <$> x = .valid b ↔ ∃ a, x = .valid a ∧ f a = b := by
  show map f x = .valid b ↔ _
  cases x <;> simp [map]

@[simp] theorem seq_eq_valid_iff {f : Checked (α → β)} {x : Checked α} {b : β} :
    f <*> x = .valid b ↔ ∃ g a, f = .valid g ∧ x = .valid a ∧ g a = b := by
  show both f x = .valid b ↔ _
  cases f <;> cases x <;> simp [both]

@[simp] theorem under_eq_valid_iff {key : String} {x : Checked α} {a : α} :
    under key x = .valid a ↔ x = .valid a := by
  cases x <;> simp [under]

end Checked

section

variable {α : Type} {entries : Keyed Data Scalar} {key : String} {read : Data → Checked α}
  {fallback a : α}

/-- The value is what is read where something is stated, and else the fallback. -/
def IsValueOf (stated : Option Data) (read : Data → Checked α) (fallback a : α) : Prop :=
  match stated with
  | some d => read d = .valid a
  | none => a = fallback

@[simp] theorem readEntry_eq_valid_iff :
    readEntry entries key read fallback = .valid a ↔
      IsValueOf (entries.get? key) read fallback a := by
  rw [readEntry]
  cases entries.get? key with
  | none => simp [IsValueOf, eq_comm]
  | some d => exact Checked.under_eq_valid_iff

@[simp] theorem readSection_eq_valid_iff {title : String} {read : Keyed Data Scalar → Checked α}
    {d : Data} : readSection title read d = .valid a ↔
      ∃ entries, d = .mapping entries ∧ read entries = .valid a := by
  cases d <;> simp [readSection, Checked.reject]

end

theorem readLevel_name (level : LogLevel) : readLevel (.text level.name) = .valid level := by
  cases level <;> rfl

/-! ### Sections -/

/-- An entry of a section: its name, how it is read, and its value in what is read. -/
structure SectionEntry (σ : Type) where
  name : String
  Value : Type
  read : Data → Checked Value
  value : σ → Value

/-- The section has the value that the entry is read as, or that of the standard section. -/
def SectionEntry.IsReadFrom {σ : Type} (entries : Keyed Data Scalar) (standard a : σ)
    (e : SectionEntry σ) : Prop :=
  IsValueOf (entries.get? e.name) e.read (e.value standard) (e.value a)

/-- The entries of the log section. -/
def logEntries (homes : Homes) : List (SectionEntry LogSettings) :=
  [⟨"level", _, readLevel, LogSettings.level⟩,
    ⟨"outputs", _, readLogOutputs homes, LogSettings.outputs⟩]

/-- The entries of the path section. -/
def pathEntries : List (SectionEntry PathSettings) :=
  [⟨"schema_path", _, readText, PathSettings.schemaPath⟩,
    ⟨"docs_dir", _, readText, PathSettings.docsDir⟩,
    ⟨"types_path", _, readText, PathSettings.typesPath⟩]

/-- The entries of the documentation section. -/
def docEntries : List (SectionEntry DocSettings) :=
  [⟨"models_dir", _, readText, DocSettings.modelsDir⟩,
    ⟨"erd_max_models", _, readLimit, DocSettings.erdMaxModels⟩,
    ⟨"entity_field_limit", _, readLimit, DocSettings.entityFieldLimit⟩,
    ⟨"erd_key_fields", _, readTexts, DocSettings.erdKeyFields⟩,
    ⟨"erd_key_field_limit", _, readLimit, DocSettings.erdKeyFieldLimit⟩]

/-- The entries of the validator section. -/
def lintEntries : List (SectionEntry LintSettings) :=
  [⟨"unique_candidates", _, readTexts, LintSettings.uniqueCandidates⟩,
    ⟨"timestamp_fields", _, readPair, LintSettings.timestampFields⟩,
    ⟨"join_table_patterns", _, readTexts, LintSettings.joinTablePatterns⟩,
    ⟨"min_fields_for_timestamps", _, readInteger, LintSettings.minFieldsForTimestamps⟩,
    ⟨"fail_on", _, readChoice Severity.all Severity.name, LintSettings.failOn⟩,
    ⟨"disabled_rules", _, readTexts, LintSettings.disabledRules⟩]

/-- The entries of the type generator section. -/
def typeEntries : List (SectionEntry TypeSettings) :=
  [⟨"runtime_import", _, readText, TypeSettings.runtimeImport⟩,
    ⟨"auto_id_defaults", _, readTexts, TypeSettings.autoIdDefaults⟩,
    ⟨"timestamp_fields", _, readTexts, TypeSettings.timestampFields⟩,
    ⟨"header_name", _, readText, TypeSettings.headerName⟩]

/-- The entries that a project's file states without a section. -/
def userEntries : List (SectionEntry UserSettings) :=
  [⟨"schema_path", _, readText, UserSettings.schemaPath⟩,
    ⟨"docs_dir", _, readText, UserSettings.docsDir⟩,
    ⟨"types_path", _, readText, UserSettings.typesPath⟩,
    ⟨"log_level", _, readLevel, UserSettings.logLevel⟩]

section

variable {homes : Homes} {d : Data}

theorem readLog_eq_valid_iff {a : LogSettings} :
    readLog homes d = .valid a ↔ ∃ entries, d = .mapping entries ∧
      ∀ e ∈ logEntries homes, e.IsReadFrom entries {} a := by
  cases a
  simp [readLog, logEntries, SectionEntry.IsReadFrom]

theorem readPaths_eq_valid_iff {a : PathSettings} :
    readPaths d = .valid a ↔ ∃ entries, d = .mapping entries ∧
      ∀ e ∈ pathEntries, e.IsReadFrom entries {} a := by
  cases a
  simp [readPaths, pathEntries, SectionEntry.IsReadFrom]

theorem readDocs_eq_valid_iff {a : DocSettings} :
    readDocs d = .valid a ↔ ∃ entries, d = .mapping entries ∧
      ∀ e ∈ docEntries, e.IsReadFrom entries {} a := by
  cases a
  -- The entries come first: the standard limits may have another form in what simp makes of them.
  simp only [readDocs, readSection_eq_valid_iff, Checked.seq_eq_valid_iff,
    Checked.map_eq_valid_iff, readEntry_eq_valid_iff]
  simp [docEntries, SectionEntry.IsReadFrom, and_assoc, -Subtype.exists]

theorem readLint_eq_valid_iff {a : LintSettings} :
    readLint d = .valid a ↔ ∃ entries, d = .mapping entries ∧
      ∀ e ∈ lintEntries, e.IsReadFrom entries {} a := by
  cases a
  simp [readLint, lintEntries, SectionEntry.IsReadFrom, and_assoc, -Prod.exists]

theorem readTypegen_eq_valid_iff {a : TypeSettings} :
    readTypegen d = .valid a ↔ ∃ entries, d = .mapping entries ∧
      ∀ e ∈ typeEntries, e.IsReadFrom entries {} a := by
  cases a
  simp [readTypegen, typeEntries, SectionEntry.IsReadFrom, and_assoc]

theorem readUser_eq_valid_iff {a : UserSettings} :
    readUser d = .valid a ↔ ∃ entries, d = .mapping entries ∧
      ∀ e ∈ userEntries, e.IsReadFrom entries {} a := by
  cases a
  simp [readUser, userEntries, SectionEntry.IsReadFrom, and_assoc]

end

/-! ### All settings -/

/-- An entry of one of the sections. -/
structure Setting where
  sectionName : String
  name : String
  Value : Type
  read : Data → Checked Value
  value : Settings → Value

namespace Setting

/-- The entry of a section, where `part` is the section in the settings. -/
def ofEntry {σ : Type} (sectionName : String) (part : Settings → σ) (e : SectionEntry σ) :
    Setting :=
  ⟨sectionName, e.name, e.Value, e.read, fun s => e.value (part s)⟩

/-- Every setting. -/
def all (homes : Homes) : List Setting :=
  (logEntries homes).map (ofEntry "logging" Settings.logging) ++
    pathEntries.map (ofEntry "paths" Settings.paths) ++
    docEntries.map (ofEntry "docs" Settings.docs) ++
    lintEntries.map (ofEntry "lint" Settings.lint) ++
    typeEntries.map (ofEntry "typegen" Settings.typegen)

/-- The setting has the value that is read where something is stated for it, or else that of the
standard settings. -/
def HasValueOf (stated : Option Data) (standard s : Settings) (e : Setting) : Prop :=
  IsValueOf stated e.read (e.value standard) (e.value s)

end Setting

/-- What some sections state for an entry of one of them. -/
def statedIn (sections : Keyed Data Scalar) (sectionName name : String) : Option Data :=
  (sections.get? sectionName).bind (Data.valueAt? · name)

theorem readSections_eq_valid_iff {homes : Homes} {sections : Keyed Data Scalar} {s : Settings} :
    readSections homes sections = .valid s ↔
      IsValueOf (sections.get? "logging") (readLog homes) {} s.logging ∧
      IsValueOf (sections.get? "paths") readPaths {} s.paths ∧
      IsValueOf (sections.get? "docs") readDocs {} s.docs ∧
      IsValueOf (sections.get? "lint") readLint {} s.lint ∧
      IsValueOf (sections.get? "typegen") readTypegen {} s.typegen := by
  cases s
  simp [readSections, and_assoc]

/-- A section that is read, or left out, gives the settings that belong to it. -/
theorem hasValueOf_ofEntry {σ : Type} {sections : Keyed Data Scalar} {sectionName : String}
    {read : Data → Checked σ} {part : Settings → σ} {es : List (SectionEntry σ)}
    {standard s : Settings}
    (hread : ∀ d a, read d = .valid a → ∃ entries, d = .mapping entries ∧
      ∀ e ∈ es, e.IsReadFrom entries (part standard) a)
    (h : IsValueOf (sections.get? sectionName) read (part standard) (part s)) :
    ∀ e ∈ es.map (Setting.ofEntry sectionName part),
      e.HasValueOf (statedIn sections e.sectionName e.name) standard s := by
  rw [List.forall_mem_map]
  intro e he
  show IsValueOf (statedIn sections sectionName e.name) e.read (e.value (part standard))
    (e.value (part s))
  rw [statedIn]
  cases hsection : sections.get? sectionName with
  | none =>
    rw [hsection] at h
    exact congrArg e.value h
  | some d =>
    rw [hsection] at h
    obtain ⟨entries, rfl, hentries⟩ := hread d _ h
    exact hentries e he

/-- Every setting has the value that its entry is read as, or its default. -/
theorem hasValueOf_of_readSections {homes : Homes} {sections : Keyed Data Scalar} {s : Settings}
    (h : readSections homes sections = .valid s) :
    ∀ e ∈ Setting.all homes, e.HasValueOf (statedIn sections e.sectionName e.name) {} s := by
  obtain ⟨hlogging, hpaths, hdocs, hlint, htypegen⟩ := readSections_eq_valid_iff.1 h
  simp only [Setting.all, List.forall_mem_append, and_assoc]
  exact ⟨hasValueOf_ofEntry (fun _ _ => readLog_eq_valid_iff.1) hlogging,
    hasValueOf_ofEntry (fun _ _ => readPaths_eq_valid_iff.1) hpaths,
    hasValueOf_ofEntry (fun _ _ => readDocs_eq_valid_iff.1) hdocs,
    hasValueOf_ofEntry (fun _ _ => readLint_eq_valid_iff.1) hlint,
    hasValueOf_ofEntry (fun _ _ => readTypegen_eq_valid_iff.1) htypegen⟩

end SchemaAtlas

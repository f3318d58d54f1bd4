import SchemaAtlas.Proofs.Settings.ProjectFile
import SchemaAtlas.Proofs.Yaml.WrittenLines
import SchemaAtlas.Settings.File

/-!
# Settings files that are read back

A settings file has a line for every entry, in a gap if the entry has its default
(`fileText_eq_ofList`).  The values are written as they are, so a path may be read as something
else: what stands behind a comment sign is lost, and `2024` is a number.

Main statement: a file of paths that are plain scalars is read back if and only if each of them
stands for itself (`loadUserSettings_fileText_iff`).
-/

namespace SchemaAtlas

open Keyed Yaml

/-! ### The lines of a settings file -/

/-- An entry of a settings file. -/
structure FileEntry where
  comment : String
  name : String
  value : String
  fallback : String

namespace FileEntry

/-- The line of the entry with the default in a gap. -/
def fallbackLine (e : FileEntry) : FileLine :=
  .gap ("# " ++ (e.name ++ ": " ++ e.fallback))

/-- An empty line, the comment and the entry. -/
def lines (e : FileEntry) : List FileLine :=
  [.gap "", .gap ("# " ++ e.comment),
    if e.value == e.fallback then e.fallbackLine else .entry e.name e.value]

/-- What the lines of the entry state. -/
def stated (e : FileEntry) : Keyed String :=
  if e.value == e.fallback then [] else [(e.name, e.value)]

theorem fileEntryLines_eq (comment key value fallback : String) :
    "" :: fileEntryLines comment key value fallback =
      (lines ⟨comment, key, value, fallback⟩).map FileLine.text ++ [""] := by
  rw [fileEntryLines, lines]
  by_cases h : value = fallback <;> simp [h, fallbackLine, FileLine.text]

theorem filterMap_lines (e : FileEntry) : e.lines.filterMap FileLine.stated? = e.stated := by
  rw [lines, stated]
  split <;> rfl

theorem get?_stated (e : FileEntry) (name : String) :
    e.stated.get? name = if e.name = name ∧ e.value ≠ e.fallback then some e.value else none := by
  rw [stated]
  by_cases hvalue : e.value = e.fallback <;> simp [hvalue, get?_cons]

end FileEntry

namespace UserSettings

/-- The entries of the file that are paths. -/
def paths (c : UserSettings) : List FileEntry :=
  let standard : UserSettings := {}
  [⟨"Schema source file", "schema_path", c.schemaPath, standard.schemaPath⟩,
    ⟨"Output directory for `spl docs`", "docs_dir", c.docsDir, standard.docsDir⟩,
    ⟨"Output file for `spl types`", "types_path", c.typesPath, standard.typesPath⟩]

/-- The entry of the log level. -/
def level (c : UserSettings) : FileEntry :=
  let standard : UserSettings := {}
  ⟨"Log level: DEBUG, INFO, WARNING, ERROR, CRITICAL", "log_level", c.logLevel.name,
    standard.logLevel.name⟩

/-- The entries of the file. -/
def entries (c : UserSettings) : List FileEntry :=
  c.paths ++ [c.level]

/-- The paths that are not their defaults. -/
def statedPaths (c : UserSettings) : List String :=
  (c.paths.filter fun e => e.value != e.fallback).map FileEntry.value

/-- What the file states. -/
def stated (c : UserSettings) : Keyed String :=
  c.entries.flatMap FileEntry.stated

/-- The lines of the file. -/
def lines (c : UserSettings) : List FileLine :=
  .gap "# SchemaPlane Configuration" ::
    .gap "# Every key can also be set via SCHEMAPLANE__<SECTION>__<KEY> env vars." ::
      c.entries.flatMap FileEntry.lines

end UserSettings

theorem joined_concat (ls : List FileLine) :
    Text.joined "\n" (ls.map FileLine.text ++ [""]) = .ofList (FileLine.linesText ls) := by
  induction ls with
  | nil => rfl
  | cons l ls ih =>
    obtain ⟨s, more, hmore⟩ := List.exists_cons_of_ne_nil
      (List.append_ne_nil_of_right_ne_nil (ls.map FileLine.text) (List.cons_ne_nil "" []))
    rw [List.map_cons, List.cons_append, hmore, Text.joined_cons_cons, ← hmore, ih,
      FileLine.linesText_cons]
    simp [String.ext_iff]

section

variable {c : UserSettings}

theorem map_text_lines (c : UserSettings) :
    c.lines.map FileLine.text ++ [""] = c.fileLines := by
  have hentries : ∀ es : List FileEntry, (es.flatMap FileEntry.lines).map FileLine.text ++ [""] =
      "" :: es.flatMap fun e => fileEntryLines e.comment e.name e.value e.fallback := by
    intro es
    induction es with
    | nil => rfl
    | cons e es ih =>
      rw [List.flatMap_cons, List.map_append, List.append_assoc, ih, List.flatMap_cons,
        ← List.cons_append, FileEntry.fileEntryLines_eq]
      simp
  rw [UserSettings.lines, List.map_cons, List.map_cons, List.cons_append, List.cons_append,
    hentries]
  simp [UserSettings.fileLines, UserSettings.entries, UserSettings.paths, UserSettings.level,
    FileLine.text]

/-- The text of the file is that of its lines. -/
theorem fileText_eq_ofList (c : UserSettings) :
    c.fileText = .ofList (FileLine.linesText c.lines) := by
  rw [← joined_concat, map_text_lines, UserSettings.fileText]

theorem filterMap_lines (c : UserSettings) :
    c.lines.filterMap FileLine.stated? = c.stated := by
  have hentries : ∀ es : List FileEntry,
      (es.flatMap FileEntry.lines).filterMap FileLine.stated? = es.flatMap FileEntry.stated := by
    intro es
    induction es with
    | nil => rfl
    | cons e es ih =>
      rw [List.flatMap_cons, List.filterMap_append, ih, FileEntry.filterMap_lines,
        List.flatMap_cons]
  exact hentries c.entries

/-! ### Lines that are read as what they are -/

/-- A text of one line that begins as a plain scalar. -/
structure IsPlainLine (s : String) : Prop where
  chars : ∀ d ∈ s.toList, IsTextChar d
  line : IsScalarLine s.toList

instance : DecidablePred IsPlainLine := fun s =>
  decidable_of_iff ((∀ d ∈ s.toList, IsTextChar d) ∧ IsScalarLine s.toList)
    ⟨fun h => ⟨h.1, h.2⟩, fun h => ⟨h.chars, h.line⟩⟩

theorem isPlainLine_levelName (level : LogLevel) : IsPlainLine level.name := by
  cases level
  all_goals exact ⟨by decide +kernel, by decide +kernel⟩

theorem says_levelName (level : LogLevel) : FileLine.Says level.name (.text level.name) := by
  refine (FileLine.says_self_iff (isPlainLine_levelName level).line).2 ?_
  cases level
  all_goals exact ⟨by decide +kernel, rfl⟩

theorem levelName_inj {a b : LogLevel} (h : a.name = b.name) : a = b := by
  rw [← Checked.valid.injEq, ← readLevel_name a, h, readLevel_name b]

theorem forall_statedPaths {q : String → Prop} :
    (∀ p ∈ c.statedPaths, q p) ↔ ∀ e ∈ c.paths, e.value ≠ e.fallback → q e.value := by
  rw [UserSettings.statedPaths, List.forall_mem_map]
  simp only [List.mem_filter, bne_iff_ne, and_imp]

/-- Whatever the values are, the comments and the names can be read. -/
theorem isWellFormed_comments (c : UserSettings) : ∀ e ∈ c.entries,
    (FileLine.gap ("# " ++ e.comment)).IsWellFormed ∧ e.fallbackLine.IsWellFormed ∧
      IsEntryName e.name.toList ∧ Plain.ofText e.name = .value (.text e.name) := by
  simp only [UserSettings.entries, UserSettings.paths, UserSettings.level, List.cons_append,
    List.nil_append, List.forall_mem_cons, FileEntry.fallbackLine]
  refine ⟨?_, ?_, ?_, ?_, fun _ => nofun⟩
  all_goals exact ⟨by decide +kernel, by decide +kernel, by decide +kernel, rfl⟩

theorem isWellFormed_lines (h : ∀ p ∈ c.statedPaths, IsPlainLine p) :
    ∀ l ∈ c.lines, l.IsWellFormed := by
  have hvalues : ∀ e ∈ c.entries, e.value ≠ e.fallback → IsPlainLine e.value := by
    intro e he hvalue
    rcases List.mem_append.1 he with he | he
    · exact forall_statedPaths.1 h e he hvalue
    · obtain rfl := List.mem_singleton.1 he
      exact isPlainLine_levelName c.logLevel
  have hentries : ∀ e ∈ c.entries, ∀ l ∈ e.lines, l.IsWellFormed := by
    intro e he
    obtain ⟨hcomment, hfallback, hname, -⟩ := isWellFormed_comments c e he
    simp only [FileEntry.lines, List.forall_mem_cons]
    refine ⟨by decide +kernel, hcomment, ?_, fun _ => nofun⟩
    by_cases heq : e.value = e.fallback
    · rwa [if_pos (beq_iff_eq.2 heq)]
    · have hvalue := hvalues e he heq
      rw [if_neg (by simpa using heq)]
      exact ⟨FileLine.isTextChar_text_entry hname hvalue.chars, hname, hvalue.line⟩
  refine List.forall_mem_cons.2 ⟨by decide +kernel, List.forall_mem_cons.2 ⟨by decide +kernel, ?_⟩⟩
  intro l hl
  obtain ⟨e, he, hl⟩ := List.mem_flatMap.1 hl
  exact hentries e he l hl

/-! ### What is read back -/

theorem keys_flatMap_stated_sublist (es : List FileEntry) :
    (keys (es.flatMap FileEntry.stated)).Sublist (es.map FileEntry.name) := by
  induction es with
  | nil => exact .slnil
  | cons e es ih =>
    rw [List.flatMap_cons, keys, List.map_append, List.map_cons]
    have he : (keys e.stated).Sublist [e.name] := by
      rw [FileEntry.stated]
      split
      · exact List.nil_sublist _
      · exact .refl _
    exact he.append ih

theorem get?_flatMap_stated {es : List FileEntry} (h : (es.map FileEntry.name).Nodup)
    {e : FileEntry} (he : e ∈ es) :
    get? (es.flatMap FileEntry.stated) e.name =
      if e.value = e.fallback then none else some e.value := by
  induction es with
  | nil => cases he
  | cons first es ih =>
    obtain ⟨hfirst, hes⟩ := List.nodup_cons.1 h
    rw [List.flatMap_cons, get?_append, FileEntry.get?_stated]
    rcases List.mem_cons.1 he with rfl | he
    · have hnone : get? (es.flatMap FileEntry.stated) e.name = none := by
        rw [← Option.not_isSome_iff_eq_none, isSome_get?_iff]
        exact fun hmem => hfirst ((keys_flatMap_stated_sublist es).subset hmem)
      rw [hnone]
      by_cases hvalue : e.value = e.fallback <;> simp [hvalue]
    · have hne : first.name ≠ e.name := fun heq => hfirst (heq ▸ List.mem_map_of_mem he)
      rw [if_neg fun hfirst => hne hfirst.1, Option.none_or, ih hes he]

theorem nodup_names (c : UserSettings) : (c.entries.map FileEntry.name).Nodup := by
  simp [UserSettings.entries, UserSettings.paths, UserSettings.level]

section

variable {entries : Keyed Data Scalar} {path : String}

/-- The entries of the file are those that it states, with what their lines say. -/
theorem fileEntries_fileText_eq_ok_iff (h : ∀ p ∈ c.statedPaths, IsPlainLine p) :
    fileEntries path (some c.fileText) = .ok entries ↔
      List.Forall₂ FileLine.SaysEntry c.stated entries := by
  have hnames : ∀ name ∈ c.stated.map Prod.fst, Plain.ofText name = .value (.text name) := by
    intro name hname
    obtain ⟨e, he, rfl⟩ := List.mem_map.1 ((keys_flatMap_stated_sublist c.entries).subset hname)
    exact (isWellFormed_comments c e he).2.2.2
  have hnodup : (c.stated.map Prod.fst).Nodup :=
    (nodup_names c).sublist (keys_flatMap_stated_sublist c.entries)
  have hyaml := @FileLine.ofYaml_linesText_eq_ok_iff c.lines (isWellFormed_lines h)
  rw [filterMap_lines, ← fileText_eq_ofList] at hyaml
  simp only [fileEntries_eq_ok_iff, hyaml hnames hnodup]
  by_cases hnone : c.stated = []
  · simp [hnone, Data.isBlank, Scalar.isBlank]
  · have hblank : ∀ found : Keyed Data Scalar,
        List.Forall₂ FileLine.SaysEntry c.stated found →
          ¬ (Data.mapping found).isBlank := by
      intro found hfound
      have hfound : found ≠ [] := fun hnil => hnone (by simpa [hnil] using hfound)
      simpa [Data.isBlank] using hfound
    constructor
    · rintro ⟨d, hd, hentries⟩
      rw [if_neg hnone] at hd
      obtain ⟨found, hfound, rfl⟩ := hd
      rw [if_neg (hblank found hfound)] at hentries
      obtain rfl := Data.mapping.inj hentries
      exact hfound
    · intro hentries
      refine ⟨.mapping entries, ?_, ?_⟩
      · rw [if_neg hnone]
        exact ⟨entries, hentries, rfl⟩
      · rw [if_neg (hblank entries hentries)]

section

variable (h : List.Forall₂ FileLine.SaysEntry c.stated entries)

include h

/-- An entry has its default or what its line says. -/
theorem isValueOf_entry_iff {e : FileEntry} (he : e ∈ c.entries) {α : Type}
    {read : Data → Checked α} {fallback a : α} :
    IsValueOf (entries.get? e.name) read fallback a ↔
      if e.value = e.fallback then a = fallback
      else ∃ d, FileLine.Says e.value d ∧ read d = .valid a := by
  have hfound := get?_of_forall₂ (f := Scalar.text) (R := FileLine.Says)
    (fun _ _ => Scalar.text.inj) h e.name
  rw [UserSettings.stated, get?_flatMap_stated (nodup_names c) he] at hfound
  split_ifs at hfound ⊢ with hvalue
  · rw [hfound]
    rfl
  · obtain ⟨d, hget, hsaid⟩ := hfound
    rw [hget]
    constructor
    · exact fun hread => ⟨d, hsaid, hread⟩
    · rintro ⟨d', hsaid', hread⟩
      rwa [hsaid.unique hsaid']

/-- A path is read back if and only if it is its default or says itself. -/
theorem isValueOf_path_iff {e : FileEntry} (he : e ∈ c.paths) :
    IsValueOf (entries.get? e.name) readText e.fallback e.value ↔
      (e.value ≠ e.fallback → FileLine.Says e.value (.text e.value)) := by
  rw [isValueOf_entry_iff h (List.mem_append_left _ he)]
  by_cases hvalue : e.value = e.fallback
  · simp [hvalue]
  · simp [hvalue, readText_eq_valid_iff]

theorem isValueOf_level : IsValueOf (entries.get? "log_level") readLevel .info c.logLevel := by
  refine (isValueOf_entry_iff (e := c.level) h (List.mem_append_right _ List.mem_cons_self)).2 ?_
  split
  · rename_i hdefault
    exact levelName_inj hdefault
  · exact ⟨.text c.logLevel.name, says_levelName c.logLevel, readLevel_name c.logLevel⟩

theorem userSettings_eq_ok_self_iff :
    userSettings entries = .ok c ↔ ∀ p ∈ c.statedPaths, FileLine.Says p (.text p) := by
  have hpaths : (∀ e ∈ c.paths, IsValueOf (entries.get? e.name) readText e.fallback e.value) ↔
      ∀ p ∈ c.statedPaths, FileLine.Says p (.text p) := by
    rw [forall_statedPaths]
    exact forall₂_congr fun e he => isValueOf_path_iff h he
  have hlevel := isValueOf_level h
  rw [userSettings_eq_ok_iff, ← hpaths]
  simp [userEntries, UserSettings.paths, hlevel]

end

/-- Paths that say themselves are all that the file states, besides the level. -/
theorem forall₂_saysEntry (h : ∀ p ∈ c.statedPaths, FileLine.Says p (.text p)) :
    List.Forall₂ FileLine.SaysEntry c.stated (c.stated.map fun e => (.text e.1, .text e.2)) := by
  rw [List.forall₂_map_right_iff, List.forall₂_same]
  intro e he
  refine ⟨rfl, ?_⟩
  obtain ⟨f, hf, he⟩ := List.mem_flatMap.1 he
  rw [FileEntry.stated] at he
  split at he
  · cases he
  · rename_i hvalue
    obtain rfl := List.mem_singleton.1 he
    rcases List.mem_append.1 hf with hf | hf
    · exact forall_statedPaths.1 h f hf (by simpa using hvalue)
    · obtain rfl := List.mem_singleton.1 hf
      exact says_levelName c.logLevel

end

/-- A file of paths that begin as plain scalars is read back if and only if each of them is bare and
stands for itself. -/
theorem loadUserSettings_fileText_iff (path : String) (h : ∀ p ∈ c.statedPaths, IsPlainLine p) :
    loadUserSettings ⟨path, some c.fileText⟩ = .ok c ↔
      ∀ p ∈ c.statedPaths, IsBare p.toList ∧ Plain.ofText p = .value (.text p) := by
  have hsaid : (∀ p ∈ c.statedPaths, FileLine.Says p (.text p)) ↔
      ∀ p ∈ c.statedPaths, IsBare p.toList ∧ Plain.ofText p = .value (.text p) :=
    forall₂_congr fun p hp => FileLine.says_self_iff (h p hp).line
  rw [loadUserSettings, bind_eq_ok_iff, ← hsaid]
  constructor
  · rintro ⟨entries, hentries, hread⟩
    exact (userSettings_eq_ok_self_iff ((fileEntries_fileText_eq_ok_iff h).1 hentries)).1 hread
  · intro hpaths
    have hstated := forall₂_saysEntry hpaths
    exact ⟨_, (fileEntries_fileText_eq_ok_iff h).2 hstated,
      (userSettings_eq_ok_self_iff hstated).2 hpaths⟩

/-- Blanks and signs inside a path may be read back. -/
theorem loadUserSettings_of_signs :
    loadUserSettings ⟨"config.yaml",
        some (UserSettings.mk "my models/a#b:c.prisma" "docs" "types/prisma.ts" .debug).fileText⟩ =
      .ok ⟨"my models/a#b:c.prisma", "docs", "types/prisma.ts", .debug⟩ :=
  (loadUserSettings_fileText_iff "config.yaml" (by decide +kernel)).2 (by decide +kernel)

/-- What stands behind a comment sign is lost. -/
theorem loadUserSettings_of_comment :
    loadUserSettings ⟨"config.yaml",
        some (UserSettings.mk "a #b" "docs/schema" "types/prisma.ts" .info).fileText⟩ =
      .ok ⟨"a", "docs/schema", "types/prisma.ts", .info⟩ := by
  have hentries : fileEntries "config.yaml"
      (some (UserSettings.mk "a #b" "docs/schema" "types/prisma.ts" .info).fileText) =
        .ok [(.text "schema_path", .text "a")] := by
    refine (fileEntries_fileText_eq_ok_iff (by decide +kernel)).2 (.cons ⟨rfl, ?_⟩ .nil)
    exact ⟨['a'], by decide +kernel, .text "a", rfl, rfl⟩
  exact bind_eq_ok_iff.2 ⟨_, hentries, rfl⟩

end

end SchemaAtlas

import SchemaAtlas.Proofs.Settings.SectionFiles

/-!
# Faults that are reported

Loading ends with settings, with a failure that is reported, or with a fault that nothing reports.
Of the latter there are five for files whose sections have names: a file whose text is nested too
deep, a value in a file that has the form of a day or a number and is none, variables that cannot be
read, a log that goes to a home directory nobody has, and a refused value that cannot be written.

Main result: loading ends with settings or a report exactly if none of the five is met
(`isReported_loadSettings_iff`).
-/

namespace SchemaAtlas

open Keyed

/-! ### Homes that are not found -/

namespace Checked

variable {α β : Type}

@[simp] theorem map_eq_homeless_iff {f : α → β} {x : Checked α} :
    f <$> x = .homeless ↔ x = .homeless := by
  show map f x = .homeless ↔ _
  cases x <;> simp [map]

@[simp] theorem seq_eq_homeless_iff {f : Checked (α → β)} {x : Checked α} :
    f <*> x = .homeless ↔ f = .homeless ∨ x = .homeless := by
  show both f x = .homeless ↔ _
  cases f <;> cases x <;> simp [both]

@[simp] theorem under_eq_homeless_iff {key : String} {x : Checked α} :
    under key x = .homeless ↔ x = .homeless := by
  cases x <;> simp [under]

@[simp] theorem andThen_eq_homeless_iff {f : α → Checked β} {x : Checked α} :
    x.andThen f = .homeless ↔ x = .homeless ∨ ∃ a, x = .valid a ∧ f a = .homeless := by
  cases x <;> simp [andThen]

/-- Items are homeless if one of them is. -/
theorem each_eq_homeless_iff {read : Data → Checked α} {position : Nat} {items : List Data} :
    each read position items = .homeless ↔ ∃ d ∈ items, read d = .homeless := by
  induction items generalizing position with
  | nil => simp [each]
  | cons item rest ih =>
    have hstep : each read position (item :: rest) =
        List.cons <$> under (toString position) (read item) <*> each read (position + 1) rest := rfl
    rw [hstep, seq_eq_homeless_iff, map_eq_homeless_iff, under_eq_homeless_iff, ih]
    simp

end Checked

section

variable {homes : Homes} {d : Data}

@[simp] theorem readText_ne_homeless : readText d ≠ .homeless := by
  cases d with
  | scalar a => cases a <;> simp [readText, Checked.reject]
  | list items => simp [readText, Checked.reject]
  | mapping entries => simp [readText, Checked.reject]

@[simp] theorem readTexts_ne_homeless : readTexts d ≠ .homeless := by
  cases d <;> simp [readTexts, Checked.reject, Checked.each_eq_homeless_iff]

@[simp] theorem readChoice_ne_homeless {α : Type} {choices : List α} {name : α → String} :
    readChoice choices name d ≠ .homeless := by
  unfold readChoice
  dsimp only
  split <;> simp [Checked.reject]

@[simp] theorem readLevel_ne_homeless : readLevel d ≠ .homeless :=
  readChoice_ne_homeless

@[simp] theorem readInteger_ne_homeless : readInteger d ≠ .homeless := by
  unfold readInteger
  repeat' split
  all_goals exact nofun

@[simp] theorem readLimit_ne_homeless : readLimit d ≠ .homeless := by
  rw [readLimit, Ne, Checked.andThen_eq_homeless_iff, not_or, not_exists]
  refine ⟨readInteger_ne_homeless, fun n h => ?_⟩
  split at h <;> simp [Checked.reject] at h

@[simp] theorem readPair_ne_homeless : readPair d ≠ .homeless := by
  match d with
  | .list [] => exact nofun
  | .list [a] =>
    show Prod.mk <$> Checked.under "0" (readText a) <*> Checked.invalid _ _ ≠ _
    simp
  | .list [a, b] =>
    show Prod.mk <$> Checked.under "0" (readText a) <*> Checked.under "1" (readText b) ≠ _
    simp
  | .list (_ :: _ :: _ :: _) => exact nofun
  | .scalar _ => exact nofun
  | .mapping _ => exact nofun

@[simp] theorem readEntry_eq_homeless_iff {α : Type} {entries : Keyed Data Scalar} {key : String}
    {read : Data → Checked α} {fallback : α} :
    readEntry entries key read fallback = .homeless ↔
      ∃ d, entries.get? key = some d ∧ read d = .homeless := by
  rw [readEntry]
  cases entries.get? key <;> simp

@[simp] theorem readSection_eq_homeless_iff {α : Type} {title : String}
    {read : Keyed Data Scalar → Checked α} :
    readSection title read d = .homeless ↔
      ∃ entries, d = .mapping entries ∧ read entries = .homeless := by
  cases d <;> simp [readSection, Checked.reject]

theorem readDestination_eq_homeless_iff : readDestination homes d = .homeless ↔
    ∃ s, d = .text s ∧ (Path.ofText s).expandHome homes = .error .unknownUser := by
  have herr : (Path.ofText "stderr").expandHome homes ≠ .error .unknownUser := nofun
  have hout : (Path.ofText "stdout").expandHome homes ≠ .error .unknownUser := nofun
  rw [readDestination, Checked.andThen_eq_homeless_iff, or_iff_right readText_ne_homeless]
  simp only [readText_eq_valid_iff]
  refine exists_congr fun s => and_congr_right fun _ => ?_
  split
  · rename_i hstderr
    rw [beq_iff_eq.1 hstderr]
    exact iff_of_false nofun herr
  split
  · rename_i hstdout
    rw [beq_iff_eq.1 hstdout]
    exact iff_of_false nofun hout
  split
  · rename_i hhome
    exact iff_of_true rfl hhome
  · rename_i hhome
    exact iff_of_false nofun fun h => nomatch hhome.symm.trans h
  · rename_i path hhome
    refine iff_of_false ?_ (fun h => nomatch hhome.symm.trans h)
    split <;> exact nofun

theorem readLogOutput_eq_homeless_iff : readLogOutput homes d = .homeless ↔
    ∃ s, d.valueAt? "destination" = some (.text s) ∧
      (Path.ofText s).expandHome homes = .error .unknownUser := by
  have hlevel : ∀ d, readOptional readLevel d ≠ .homeless := by
    intro d
    unfold readOptional
    split
    · exact nofun
    · show some <$> readLevel d ≠ _
      simp
  rw [readLogOutput, readSection_eq_homeless_iff]
  simp only [Checked.seq_eq_homeless_iff, Checked.map_eq_homeless_iff, readEntry_eq_homeless_iff,
    readChoice_ne_homeless, hlevel, readDestination_eq_homeless_iff]
  cases d <;> simp [Data.valueAt?, Data.entries?]

theorem readLog_eq_homeless_iff : readLog homes d = .homeless ↔
    ∃ items, d.valueAt? "outputs" = some (.list items) ∧
      ∃ d ∈ items, readLogOutput homes d = .homeless := by
  have houtputs : ∀ d, readLogOutputs homes d = .homeless ↔
      ∃ items, d = .list items ∧ ∃ d ∈ items, readLogOutput homes d = .homeless := by
    intro d
    cases d <;> simp [readLogOutputs, Checked.reject, Checked.each_eq_homeless_iff]
  rw [readLog, readSection_eq_homeless_iff]
  simp only [Checked.seq_eq_homeless_iff, Checked.map_eq_homeless_iff, readEntry_eq_homeless_iff,
    readLevel_ne_homeless, houtputs]
  cases d <;> simp [Data.valueAt?, Data.entries?]

end

/-- An output of the log is below the home directory of somebody who has none. -/
def HasUnknownHome (homes : Homes) (sections : Keyed Data Scalar) : Prop :=
  ∃ items, statedIn sections "logging" "outputs" = some (.list items) ∧
    ∃ d ∈ items, ∃ s, d.valueAt? "destination" = some (.text s) ∧
      (Path.ofText s).expandHome homes = .error .unknownUser

theorem readSections_eq_homeless_iff {homes : Homes} {sections : Keyed Data Scalar} :
    readSections homes sections = .homeless ↔ HasUnknownHome homes sections := by
  have hpaths : ∀ d, readPaths d ≠ .homeless := by simp [readPaths]
  have hdocs : ∀ d, readDocs d ≠ .homeless := by
    intro d
    rw [readDocs, Ne, readSection_eq_homeless_iff]
    simp only [Checked.seq_eq_homeless_iff, Checked.map_eq_homeless_iff, readEntry_eq_homeless_iff,
      readText_ne_homeless, readLimit_ne_homeless, readTexts_ne_homeless, or_self, and_false,
      exists_false, not_false_eq_true]
  have hlint : ∀ d, readLint d ≠ .homeless := by simp [readLint]
  have htypegen : ∀ d, readTypegen d ≠ .homeless := by simp [readTypegen]
  simp only [readSections, Checked.seq_eq_homeless_iff, Checked.map_eq_homeless_iff,
    readEntry_eq_homeless_iff, hpaths, hdocs, hlint, htypegen, readLog_eq_homeless_iff,
    readLogOutput_eq_homeless_iff, and_false, exists_false, or_false]
  rw [HasUnknownHome, statedIn]
  cases sections.get? "logging" <;> simp

/-- Entries that are no section do not hide a home directory that is not found. -/
theorem readRoot_eq_homeless_iff {homes : Homes} {named : Keyed Data} :
    readRoot homes named = .homeless ↔ HasUnknownHome homes (Data.textKeyed named) := by
  rw [readRoot, ← readSections_eq_homeless_iff]
  split
  · rfl
  · show (fun settings (_ : Unit) => settings) <$> readSections homes (Data.textKeyed named) <*>
      Checked.invalid _ _ = _ ↔ _
    simp

/-! ### Reports -/

/-- Loading has come to settings, or to a failure that is reported. -/
def IsReported {α : Type} : Except LoadFault α → Prop
  | .ok _ => True
  | .error (.failed _) => True
  | .error _ => False

/-- A refused value is one that can be written into the report. -/
def Checked.IsPresentable {α : Type} : Checked α → Prop
  | .invalid v _ => v.input.isWritable
  | _ => True

/-- Besides it is not nested deeper than `depth`. -/
def Checked.IsPresentableWithin {α : Type} (depth : Nat) : Checked α → Prop
  | .invalid v _ => v.input.nesting ≤ depth ∧ v.input.isWritable
  | _ => True

theorem isReported_accept_iff {α : Type} {x : Checked α} :
    IsReported (accept x) ↔ x ≠ .homeless ∧ x.IsPresentable := by
  cases x with
  | valid a => simp [accept, IsReported, Checked.IsPresentable]
  | homeless => simp [accept, IsReported]
  | invalid v more =>
    rw [accept]
    split <;> simp_all [IsReported, Checked.IsPresentable]

theorem isReported_acceptWithin_iff {α : Type} {depth : Nat} {x : Checked α} :
    IsReported (acceptWithin depth x) ↔ x ≠ .homeless ∧ x.IsPresentableWithin depth := by
  cases x with
  | valid a => simp [acceptWithin, accept, IsReported, Checked.IsPresentableWithin]
  | homeless => simp [acceptWithin, accept, IsReported]
  | invalid v more =>
    rw [acceptWithin]
    split
    · rename_i hdepth
      simp [isReported_accept_iff, Checked.IsPresentable, Checked.IsPresentableWithin, hdepth]
    · rename_i hdepth
      exact iff_of_false id fun h => hdepth h.2.1

theorem isReported_bind_iff {α β : Type} {x : Except LoadFault α} {f : α → Except LoadFault β} :
    IsReported (x >>= f) ↔ IsReported x ∧ ∀ a, x = .ok a → IsReported (f a) := by
  cases x with
  | ok a => simp [bind, Except.bind, IsReported]
  | error fault => cases fault <;> simp [bind, Except.bind, IsReported]

section

variable {surroundings : Surroundings} {user project entries : Keyed Data Scalar}

theorem isReported_userSettings_iff :
    IsReported (userSettings entries) ↔
      (readUser (.mapping (entries.filter fun e =>
        e.1.text?.any flatNames.contains))).IsPresentable := by
  have hhome : ∀ d, readUser d ≠ .homeless := by simp [readUser]
  rw [userSettings, isReported_accept_iff, and_iff_right (hhome _)]

theorem isReported_mergedSections_iff :
    IsReported (mergedSections surroundings user project []) ↔
      ∀ sectionName ∈ sectionNames,
        HasReadableVariables surroundings.jsonDepth (lowerNames surroundings.environment)
          sectionName := by
  rw [← exists_environmentEntries_iff, mergedSections]
  cases environmentEntries surroundings with
  | error fault => cases fault <;> exact iff_of_false id (by simp)
  | ok given => exact iff_of_true trivial ⟨given, rfl⟩

/-- Only an improper value in a file is no report. -/
theorem isReported_entries_iff {file : SettingsFile} :
    IsReported file.entries ↔ ∀ fault, file.entries ≠ .error (.improperValue fault) := by
  unfold SettingsFile.entries fileEntries
  repeat' split
  all_goals simp [IsReported]

/-- The text of the file is not nested too deep, and every value that it states exists. -/
def SettingsFile.IsProper (surroundings : Surroundings) (file : SettingsFile) : Prop :=
  file.text.all surroundings.follows ∧ ∀ fault, file.entries ≠ .error (.improperValue fault)

theorem isReported_entriesOf_iff {file : SettingsFile} :
    IsReported (surroundings.entriesOf file) ↔ file.IsProper surroundings := by
  rw [Surroundings.entriesOf, SettingsFile.IsProper, ← isReported_entries_iff]
  split
  · rename_i hfollows
    exact (and_iff_right hfollows).symm
  · rename_i hfollows
    exact iff_of_false id fun h => hfollows h.1

/-- Every key is a text. -/
def HasTextKeys (entries : Keyed Data Scalar) : Prop :=
  ∀ key ∈ entries.keys, ∃ name, key = .text name

theorem hasTextKeys_textKeyed (named : Keyed Data) : HasTextKeys (Data.textKeyed named) := by
  intro key hkey
  obtain ⟨name, -, rfl⟩ := Data.mem_keys_textKeyed hkey
  exact ⟨name, rfl⟩

theorem HasTextKeys.overlayEntries {lower upper : Keyed Data Scalar} (hlower : HasTextKeys lower)
    (hupper : HasTextKeys upper) : HasTextKeys (Data.overlayEntries lower upper) := fun key hkey =>
  (Data.mem_keys_overlayEntries hkey).elim (hlower key) (hupper key)

theorem hasTextKeys_sourceSections (huser : HasTextKeys user) (hproject : HasTextKeys project)
    (given : Keyed Data) : HasTextKeys (sourceSections user project given []) :=
  (huser.overlayEntries hproject).overlayEntries
    ((hasTextKeys_textKeyed given).overlayEntries fun _ => nofun)

/-- The sections that the sources state together, under their names. -/
def AreSourceSections (surroundings : Surroundings) (user project : Keyed Data Scalar)
    (named : Keyed Data) : Prop :=
  ∃ given, environmentEntries surroundings = .ok given ∧
    sourceSections user project given [] = Data.textKeyed named

/-- Nothing in the environment and in the sections of the two files is beyond a report. -/
structure AreReportable (surroundings : Surroundings) (user project : Keyed Data Scalar) :
    Prop where
  /-- The variables can be read. -/
  readable : ∀ sectionName ∈ sectionNames,
    HasReadableVariables surroundings.jsonDepth (lowerNames surroundings.environment) sectionName
  /-- No output of the log is in an unknown home. -/
  homes : ∀ named, AreSourceSections surroundings user project named →
    ¬ HasUnknownHome surroundings.homes (Data.textKeyed named)
  /-- No section is refused, or what is refused can be written. -/
  sections : ∀ named, AreSourceSections surroundings user project named →
    (readRoot surroundings.homes named).IsPresentableWithin surroundings.messageDepth

theorem isReported_settingsOf_iff (huser : HasTextKeys user) (hproject : HasTextKeys project) :
    IsReported (settingsOf surroundings user project []) ↔
      AreReportable surroundings user project := by
  have hread : ∀ named,
      IsReported (acceptWithin surroundings.messageDepth (readRoot surroundings.homes named)) ↔
        ¬ HasUnknownHome surroundings.homes (Data.textKeyed named) ∧
          (readRoot surroundings.homes named).IsPresentableWithin surroundings.messageDepth :=
    fun named => by rw [isReported_acceptWithin_iff, Ne, readRoot_eq_homeless_iff]
  rw [settingsOf, isReported_bind_iff, isReported_mergedSections_iff]
  constructor
  · rintro ⟨hreadable, h⟩
    have hnamed : ∀ named, AreSourceSections surroundings user project named →
        ¬ HasUnknownHome surroundings.homes (Data.textKeyed named) ∧
          (readRoot surroundings.homes named).IsPresentableWithin surroundings.messageDepth := by
      rintro named ⟨given, hgiven, hnamed⟩
      have hmerged := h _ (mergedSections_eq_ok_iff.2 ⟨given, hgiven, hnamed⟩)
      rw [Data.textKeyed?_textKeyed] at hmerged
      exact (hread named).1 hmerged
    exact ⟨hreadable, fun named h => (hnamed named h).1, fun named h => (hnamed named h).2⟩
  · rintro ⟨hreadable, hhomes, hsections⟩
    refine ⟨hreadable, fun merged hmerged => ?_⟩
    obtain ⟨given, hgiven, rfl⟩ := mergedSections_eq_ok_iff.1 hmerged
    obtain ⟨named, hnamed, -⟩ := Data.exists_eq_textKeyed (p := fun _ => True) fun key hkey =>
      (hasTextKeys_sourceSections huser hproject given key hkey).imp fun _ => .intro trivial
    rw [hnamed, Data.textKeyed?_textKeyed]
    have hsource : AreSourceSections surroundings user project named := ⟨given, hgiven, hnamed⟩
    exact (hread named).2 ⟨hhomes named hsource, hsections named hsource⟩

theorem hasTextKeys_of_projectSections (h : projectSections entries = .ok project) :
    HasTextKeys project := by
  obtain ⟨user, -, hsections⟩ := bind_eq_ok_iff.1 h
  obtain rfl := Except.ok.inj hsections
  exact (hasTextKeys_textKeyed _).overlayEntries (hasTextKeys_textKeyed _)

/-- The project's file has the sections `project`. -/
def SettingsFile.HasSections (file : SettingsFile) (project : Keyed Data Scalar) : Prop :=
  ∃ entries, file.entries = .ok entries ∧ projectSections entries = .ok project

/-- Nothing in the environment and the two files is beyond a report. -/
structure IsReportable (surroundings : Surroundings) (userFile projectFile : SettingsFile) :
    Prop where
  projectFile_isProper : projectFile.IsProper surroundings
  /-- What the project's file states without a section is not refused, or can be written. -/
  flat : ∀ entries, projectFile.entries = .ok entries →
    (readUser (.mapping (entries.filter fun e =>
      e.1.text?.any flatNames.contains))).IsPresentable
  /-- Once the project's file is accepted, the user's file counts as well. -/
  userFile_isProper : ∀ project, projectFile.HasSections project → userFile.IsProper surroundings
  /-- Then nothing in the sections of both is beyond a report either. -/
  sections : ∀ project user, projectFile.HasSections project → userFile.entries = .ok user →
    AreReportable surroundings user project

end

end SchemaAtlas

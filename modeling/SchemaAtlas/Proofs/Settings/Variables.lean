import SchemaAtlas.Proofs.Settings.Entries
import SchemaAtlas.Proofs.Text.Searching

/-!
# Settings from variables

In an environment whose variables all name settings (`NamesSettings`), what is put together from
the variables is read off them one by one.

Main statements: the sections of the environment state for a setting what its own variable says
(`statedIn_environmentEntries`), and there are such sections if and only if every variable that a
section looks at can be read (`exists_environmentEntries_iff`).
-/

namespace SchemaAtlas

open Keyed Text

/-- The name of the variable for a setting, in lower case. -/
def variableName (sectionName name : String) : String :=
  variableStart ++ sectionName ++ "__" ++ name

/-- Every variable that has the start of the program's variables names a setting. -/
def NamesSettings (environment : List (String × String)) : Prop :=
  ∀ v ∈ environment, startsWith variableStart (lower v.1).toList →
    ∃ sectionName ∈ sectionNames, ∃ name ∈ entryNames sectionName,
      lower v.1 = variableName sectionName name

/-- What the variable for a setting says, if there is one: JSON for a list, else a text. -/
def variableStates (surroundings : Surroundings) (sectionName name : String) : Option Data :=
  ((lowerNames surroundings.environment).get? (variableName sectionName name)).bind fun value =>
    (variableValue surroundings.jsonDepth sectionName [name] value).toOption

/-! ### Names of variables -/

theorem underscore_notMem : ∀ sectionName ∈ sectionNames, '_' ∉ sectionName.toList := by
  decide +kernel

theorem cutAtDoubleUnderscore_of_mem : ∀ sectionName ∈ sectionNames,
    ∀ name ∈ entryNames sectionName, cutAtDoubleUnderscore name.toList = [name.toList] := by
  decide +kernel

theorem lower_of_mem : ∀ sectionName ∈ sectionNames, ∀ name ∈ entryNames sectionName,
    lower name = name := by
  decide +kernel

section

variable {sectionName other name name' : String}

theorem toList_variableName (sectionName name : String) :
    (variableName sectionName name).toList =
      variableStart.toList ++ (sectionName.toList ++ '_' :: '_' :: name.toList) := by
  simp [variableName]

theorem variableName_inj :
    variableName sectionName name = variableName sectionName name' ↔ name = name' := by
  rw [variableName, variableName, String.append_right_inj]

/-- A variable for a setting is not one for a whole section. -/
theorem variableName_ne (h : sectionName ∈ sectionNames) :
    variableName other name ≠ variableStart ++ sectionName := by
  intro heq
  have hlists := congrArg String.toList heq
  rw [toList_variableName, String.toList_append, List.append_cancel_left_eq] at hlists
  refine underscore_notMem sectionName h ?_
  rw [← hlists]
  simp

theorem entryPath?_variableName (h : sectionName ∈ sectionNames)
    (hname : name ∈ entryNames sectionName) :
    entryPath? sectionName (variableName sectionName name) = some [name] := by
  have hafter : after? (variableStart ++ sectionName ++ "__")
      (variableName sectionName name).toList = some name.toList := by
    rw [variableName, String.toList_append]
    exact after?_append _ _
  rw [entryPath?, hafter, Option.map_some, cutAtDoubleUnderscore_of_mem _ h _ hname]
  simp

theorem entryPath?_variableName_of_ne (h : sectionName ∈ sectionNames)
    (hother : other ∈ sectionNames)
    (hne : other ≠ sectionName) : entryPath? sectionName (variableName other name) = none := by
  rw [entryPath?, Option.map_eq_none_iff]
  cases hafter : after? (variableStart ++ sectionName ++ "__") (variableName other name).toList with
  | none => rfl
  | some rest =>
    have hlists := eq_append_of_after? hafter
    have hcut : cutFirst? '_' (other.toList ++ '_' :: '_' :: name.toList) =
        cutFirst? '_' (sectionName.toList ++ '_' :: '_' :: rest) := by
      rw [toList_variableName] at hlists
      refine congrArg (cutFirst? '_') (List.append_cancel_left (hlists.trans ?_))
      simp
    rw [cutFirst?_append_cons (underscore_notMem _ hother),
      cutFirst?_append_cons (underscore_notMem _ h)] at hcut
    simp only [Option.some.injEq, Prod.mk.injEq, String.toList_inj] at hcut
    exact absurd hcut.1 hne

theorem entryPath?_eq_none (h : ¬ startsWith variableStart name.toList) :
    entryPath? sectionName name = none := by
  rw [entryPath?, Option.map_eq_none_iff]
  cases hafter : after? (variableStart ++ sectionName ++ "__") name.toList with
  | none => rfl
  | some rest =>
    refine absurd ?_ h
    rw [eq_append_of_after? hafter]
    simp [startsWith, List.append_assoc]

/-- The names of entries are proper as they are. -/
theorem properKey_of_mem (h : sectionName ∈ sectionNames) (hname : name ∈ entryNames sectionName) :
    properKey sectionName (.text name) = .text name := by
  have hfind : entryNamed? sectionName name = some name := by
    rw [entryNamed?]
    cases hfind : (entryNames sectionName).find? fun entry => lower entry == lower name with
    | none => exact absurd (List.find?_eq_none.1 hfind name hname) (by simp)
    | some entry =>
      have hentry := List.find?_some hfind
      rw [lower_of_mem _ h _ hname, lower_of_mem _ h _ (List.mem_of_find?_eq_some hfind),
        beq_iff_eq] at hentry
      rw [hentry]
  rw [properKey, hfind]
  rfl

end

/-! ### Variables of one section -/

/-- The entries of a section with what one more variable says. -/
def withVariable (depth : Nat) (sectionName : String) (entries : Keyed Data Scalar)
    (v : String × String) : Except EnvironmentFault (Keyed Data Scalar) := do
  match entryPath? sectionName v.1 with
  | none => return entries
  | some path =>
    let value ← variableValue depth sectionName path v.2
    return putAt value path entries

section

variable {depth : Nat} {sectionName : String} {v : String × String} {environment : Keyed String}
  {entries found : Keyed Data Scalar}

/-- A variable of the program names a setting. -/
def IsSettingVariable (name : String) : Prop :=
  startsWith variableStart name.toList →
    ∃ sectionName ∈ sectionNames, ∃ entry ∈ entryNames sectionName,
      name = variableName sectionName entry

/-- A variable says something for one entry of the section, or does not belong to it. -/
theorem withVariable_cases (h : sectionName ∈ sectionNames) (hv : IsSettingVariable v.1)
    (hfound : withVariable depth sectionName entries v = .ok found) :
    (∃ name ∈ entryNames sectionName, ∃ d, v.1 = variableName sectionName name ∧
      variableValue depth sectionName [name] v.2 = .ok d ∧ found = entries.put name d) ∨
    (∀ name ∈ entryNames sectionName, v.1 ≠ variableName sectionName name) ∧ found = entries := by
  have hother : entryPath? sectionName v.1 = none →
      (∀ name ∈ entryNames sectionName, v.1 ≠ variableName sectionName name) ∧
        found = entries := by
    intro hpath
    constructor
    · intro name hname heq
      rw [heq, entryPath?_variableName h hname] at hpath
      cases hpath
    · rw [withVariable, hpath] at hfound
      exact (Except.ok.inj hfound).symm
  by_cases hstart : startsWith variableStart v.1.toList
  · obtain ⟨other, hmem, name, hname, heq⟩ := hv hstart
    by_cases hsection : other = sectionName
    · subst hsection
      rw [withVariable, heq, entryPath?_variableName h hname] at hfound
      cases hvalue : variableValue depth other [name] v.2 with
      | error fault => simp [hvalue, bind, Except.bind] at hfound
      | ok d =>
        have hput : entries.put name d = found := by
          simpa [hvalue, bind, Except.bind, pure, Except.pure, putAt_singleton] using hfound
        exact .inl ⟨name, hname, d, heq, hvalue, hput.symm⟩
    · exact .inr (hother (heq ▸ entryPath?_variableName_of_ne h hmem hsection))
  · exact .inr (hother (entryPath?_eq_none hstart))

/-- What the variables of a section say together is what each says for its own entry. -/
theorem get?_foldlM_withVariable (h : sectionName ∈ sectionNames)
    (hnames : ∀ v ∈ environment, IsSettingVariable v.1) (hnodup : environment.keys.Nodup)
    (hfound : environment.foldlM (withVariable depth sectionName) entries = .ok found)
    {name : String} (hname : name ∈ entryNames sectionName) :
    found.get? name = ((environment.get? (variableName sectionName name)).bind fun value =>
      (variableValue depth sectionName [name] value).toOption).or (entries.get? name) := by
  induction environment generalizing entries with
  | nil =>
    obtain rfl : entries = found := Except.ok.inj hfound
    rfl
  | cons v environment ih =>
    rw [List.foldlM_cons, bind_eq_ok_iff] at hfound
    obtain ⟨next, hnext, hfound⟩ := hfound
    rw [List.forall_mem_cons] at hnames
    obtain ⟨hnew, hrest⟩ : v.1 ∉ keys environment ∧ (keys environment).Nodup :=
      List.nodup_cons.1 hnodup
    rw [ih hnames.2 hrest hfound, get?_cons]
    obtain ⟨other, hother, d, heq, hvalue, rfl⟩ | ⟨hforeign, rfl⟩ :=
      withVariable_cases h hnames.1 hnext
    · by_cases hsame : other = name
      · subst hsame
        have hnone : get? environment (variableName sectionName other) = none := by
          rw [← Option.not_isSome_iff_eq_none, isSome_get?_iff, ← heq]
          exact hnew
        rw [if_pos heq, hnone, get?_put, if_pos rfl, Option.bind_some, hvalue]
        rfl
      · have hne : v.1 ≠ variableName sectionName name := by
          rw [heq, Ne, variableName_inj]
          exact hsame
        rw [if_neg hne, get?_put, if_neg (by simpa using hsame)]
    · rw [if_neg (hforeign name hname)]

/-- The variables of a section give entries with proper names, each once. -/
theorem keys_foldlM_withVariable (h : sectionName ∈ sectionNames)
    (hnames : ∀ v ∈ environment, IsSettingVariable v.1)
    (hfound : environment.foldlM (withVariable depth sectionName) entries = .ok found)
    (hentries : entries.keys.Nodup ∧ ∀ key ∈ entries.keys, properKey sectionName key = key) :
    found.keys.Nodup ∧ ∀ key ∈ found.keys, properKey sectionName key = key := by
  induction environment generalizing entries with
  | nil =>
    obtain rfl : entries = found := Except.ok.inj hfound
    exact hentries
  | cons v environment ih =>
    rw [List.foldlM_cons, bind_eq_ok_iff] at hfound
    obtain ⟨next, hnext, hfound⟩ := hfound
    rw [List.forall_mem_cons] at hnames
    refine ih hnames.2 hfound ?_
    obtain ⟨name, hname, d, -, -, rfl⟩ | ⟨-, rfl⟩ := withVariable_cases h hnames.1 hnext
    · rw [keys_put]
      split
      · exact hentries
      · rename_i hnew
        rw [← List.concat_eq_append]
        refine ⟨hentries.1.concat hnew, fun key hkey => ?_⟩
        rcases List.mem_append.1 (List.concat_eq_append ▸ hkey) with hkey | hkey
        · exact hentries.2 key hkey
        · obtain rfl := List.mem_singleton.1 hkey
          exact properKey_of_mem h hname
    · exact hentries

/-- The entries that the variables of a section give, and none that they do not give. -/
theorem get?_entryVariables (h : sectionName ∈ sectionNames)
    (hnames : ∀ v ∈ environment, IsSettingVariable v.1) (hnodup : environment.keys.Nodup)
    (hfound : entryVariables depth sectionName environment = .ok found)
    {name : String} (hname : name ∈ entryNames sectionName) :
    found.get? name = (environment.get? (variableName sectionName name)).bind fun value =>
      (variableValue depth sectionName [name] value).toOption := by
  rw [get?_foldlM_withVariable h hnames hnodup hfound hname, get?_nil, Option.or_none]

end

/-! ### All variables -/

section

variable {environment : List (String × String)}

theorem isSettingVariable_of_mem (h : NamesSettings environment) :
    ∀ v ∈ lowerNames environment, IsSettingVariable v.1 := by
  intro v hv hstart
  have hkey : v.1 ∈ (lowerNames environment).keys := List.mem_map_of_mem hv
  rw [lowerNames, keys_ofList, List.mem_eraseDups, List.map_map, List.mem_map] at hkey
  obtain ⟨u, hu, heq⟩ := hkey
  rw [← heq] at hstart ⊢
  exact h u hu hstart

theorem nodup_lowerNames (environment : List (String × String)) :
    (lowerNames environment).keys.Nodup := by
  rw [lowerNames, keys_ofList]
  exact nodup_eraseDups _

/-- No variable holds a whole section. -/
theorem get?_section_eq_none (h : NamesSettings environment) {sectionName : String}
    (hsection : sectionName ∈ sectionNames) :
    (lowerNames environment).get? (variableStart ++ sectionName) = none := by
  rw [← Option.not_isSome_iff_eq_none, isSome_get?_iff]
  intro hkey
  obtain ⟨v, hv, heq⟩ := List.mem_map.1 hkey
  have hstart : startsWith variableStart v.1.toList := by
    rw [heq, String.toList_append]
    simp [startsWith]
  obtain ⟨other, -, name, -, hname⟩ := isSettingVariable_of_mem h v hv hstart
  exact variableName_ne hsection (hname.symm.trans heq)

variable {surroundings : Surroundings} {sectionName : String} {o : Option Data}

theorem sectionVariables_of_namesSettings (h : NamesSettings surroundings.environment)
    (hsection : sectionName ∈ sectionNames)
    (ho : sectionVariables surroundings.jsonDepth (lowerNames surroundings.environment)
      sectionName = .ok o) :
    (∀ d ∈ o, ∀ key, d.HasOnce key) ∧ ∀ name ∈ entryNames sectionName,
      o.bind (Data.valueAt? · name) = variableStates surroundings sectionName name := by
  rw [sectionVariables, get?_section_eq_none h hsection] at ho
  obtain ⟨found, hfound, ho⟩ := bind_eq_ok_iff.1 ho
  have hget := @get?_entryVariables _ _ _ found hsection (isSettingVariable_of_mem h)
    (nodup_lowerNames _) hfound
  obtain ⟨hnodup, hproper⟩ := keys_foldlM_withVariable hsection (isSettingVariable_of_mem h)
    hfound ⟨.nil, fun _ => nofun⟩
  cases found with
  | nil =>
    obtain rfl : none = o := Except.ok.inj ho
    exact ⟨fun _ => nofun, fun name hname => hget hname⟩
  | cons e found =>
    have hmap : (e :: found).map (fun e => (properKey sectionName e.1, e.2)) = e :: found := by
      conv_rhs => rw [← List.map_id (e :: found)]
      refine List.map_congr_left fun entry hentry => ?_
      rw [hproper _ (List.mem_map_of_mem hentry)]
      rfl
    obtain rfl : some (.mapping (e :: found)) = o := by
      refine Eq.trans ?_ (Except.ok.inj ho)
      rw [withProperNames, hmap, ofList_of_nodup hnodup]
    refine ⟨fun d hd key => ?_, fun name hname => hget hname⟩
    obtain rfl := Option.some.inj hd
    exact ⟨_, rfl, once_of_nodup hnodup key⟩

/-- The sections that the variables give, where every variable names a setting. -/
theorem statedIn_environmentEntries (h : NamesSettings surroundings.environment)
    {sections : Keyed Data} (hsections : environmentEntries surroundings = .ok sections) :
    sections.keys.Nodup ∧ ∀ sectionName ∈ sectionNames,
      (∀ d ∈ sections.get? sectionName, ∀ key, d.HasOnce key) ∧
      ∀ name ∈ entryNames sectionName,
        (sections.get? sectionName).bind (Data.valueAt? · name) =
          variableStates surroundings sectionName name := by
  obtain ⟨found, hfound, hsections⟩ := bind_eq_ok_iff.1 hsections
  obtain rfl : found.filterMap id = sections := Except.ok.inj hsections
  have hnodup : sectionNames.Nodup := by decide
  obtain ⟨hkeys, hget⟩ := get?_of_mapM hfound
  exact ⟨hkeys.nodup hnodup, fun sectionName hsection =>
    sectionVariables_of_namesSettings h hsection (hget sectionName hsection)⟩

end

/-! ### Variables that can be read -/

/-- A variable that names an entry which is a list is empty or holds JSON that is not nested deeper
than `depth`. -/
def IsReadable (depth : Nat) (sectionName : String) (v : String × String) : Prop :=
  ∀ name entry, entryPath? sectionName v.1 = some [name] →
    entryNamed? sectionName name = some entry → entry ∈ listEntryNames → v.2 ≠ "" →
    ∃ d, Data.ofJson depth v.2 = .ok d

/-- The variable of a section holds such JSON, and so do those of its lists.  The latter are not
looked at where the former is no mapping. -/
def HasReadableVariables (depth : Nat) (environment : Keyed String) (sectionName : String) : Prop :=
  match environment.get? (variableStart ++ sectionName) with
  | some value => ∃ d, Data.ofJson depth value = .ok d ∧
      (d.entries?.isSome → ∀ v ∈ environment, IsReadable depth sectionName v)
  | none => ∀ v ∈ environment, IsReadable depth sectionName v

section

variable {depth : Nat} {environment : Keyed String} {sectionName : String}

@[simp] theorem variableJson_eq_ok_iff {value : String} {d : Data} :
    variableJson depth sectionName value = .ok d ↔ Data.ofJson depth value = .ok d := by
  rw [variableJson]
  cases Data.ofJson depth value with
  | ok found => simp
  | error fault => cases fault <;> simp

theorem exists_variableValue_iff {path : List String} {value : String} :
    (∃ d, variableValue depth sectionName path value = .ok d) ↔
      ∀ name entry, path = [name] → entryNamed? sectionName name = some entry →
        entry ∈ listEntryNames → value ≠ "" → ∃ d, Data.ofJson depth value = .ok d := by
  by_cases hlist : ∃ name entry, path = [name] ∧ entryNamed? sectionName name = some entry ∧
      entry ∈ listEntryNames
  · obtain ⟨name, entry, rfl, hentry, hmem⟩ := hlist
    have hreads : (∃ d, variableValue depth sectionName [name] value = .ok d) ↔
        (value ≠ "" → ∃ d, Data.ofJson depth value = .ok d) := by
      by_cases hempty : value = "" <;> simp [variableValue, hentry, hmem, hempty]
    rw [hreads]
    constructor
    · exact fun h _ _ _ _ _ => h
    · exact fun h => h name entry rfl hentry hmem
  · have hvalue : variableValue depth sectionName path value = .ok (.text value) := by
      match path with
      | [] => rfl
      | [name] =>
        cases hentry : entryNamed? sectionName name with
        | none => simp [variableValue, hentry]
        | some entry =>
          have hmem : entry ∉ listEntryNames := fun hmem => hlist ⟨name, entry, rfl, hentry, hmem⟩
          simp [variableValue, hentry, hmem]
      | _ :: _ :: _ => rfl
    exact ⟨fun _ name entry hpath hentry hmem => absurd ⟨name, entry, hpath, hentry, hmem⟩ hlist,
      fun _ => ⟨_, hvalue⟩⟩

theorem exists_entryVariables_iff :
    (∃ found, entryVariables depth sectionName environment = .ok found) ↔
      ∀ v ∈ environment, IsReadable depth sectionName v := by
  refine exists_foldlM_eq_ok_iff (fun entries v => ?_) []
  cases hpath : entryPath? sectionName v.1 with
  | none =>
    refine ⟨fun _ name entry h => ?_, fun _ => ⟨entries, rfl⟩⟩
    rw [hpath] at h
    cases h
  | some path =>
    have hstep : IsReadable depth sectionName v ↔
        ∃ d, variableValue depth sectionName path v.2 = .ok d := by
      simp [IsReadable, hpath, exists_variableValue_iff]
    rw [hstep]
    exact exists_bind_pure_eq_ok_iff

/-- The section has variables exactly if all of them can be read. -/
theorem exists_sectionVariables_iff :
    (∃ found, sectionVariables depth environment sectionName = .ok found) ↔
      HasReadableVariables depth environment sectionName := by
  rw [sectionVariables, HasReadableVariables]
  cases environment.get? (variableStart ++ sectionName) with
  | none =>
    dsimp only
    rw [← exists_entryVariables_iff]
    cases entryVariables depth sectionName environment with
    | error fault => simp [bind, Except.bind]
    | ok found => cases found <;> simp [bind, Except.bind, pure, Except.pure]
  | some value =>
    dsimp only
    rw [← exists_entryVariables_iff]
    simp only [← @variableJson_eq_ok_iff depth sectionName]
    cases variableJson depth sectionName value with
    | error fault => simp [bind, Except.bind]
    | ok d =>
      cases d with
      | mapping entries =>
        simpa [Data.entries?, bind, Except.bind] using exists_bind_pure_eq_ok_iff
      | list items => simp [Data.entries?, bind, Except.bind, pure, Except.pure]
      | scalar a => cases a <;> simp [Data.entries?, bind, Except.bind, pure, Except.pure]

end

/-- Sections are found in the environment exactly if all their variables can be read. -/
theorem exists_environmentEntries_iff {surroundings : Surroundings} :
    (∃ sections, environmentEntries surroundings = .ok sections) ↔
      ∀ sectionName ∈ sectionNames,
        HasReadableVariables surroundings.jsonDepth (lowerNames surroundings.environment)
          sectionName := by
  rw [environmentEntries]
  simp only [exists_bind_pure_eq_ok_iff, exists_mapM_eq_ok_iff, exists_sectionVariables_iff]

end SchemaAtlas

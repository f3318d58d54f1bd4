import SchemaAtlas.Proofs.Data.AgreeingKeys

/-!
# Entries laid over each other

`overlay?` lays what one side states under a key over what the other side states.  That is what
`Data.overlayEntries` does key by key (`valueOf?_overlayEntries`), and below a key once more
(`under?_overlay`), as long as the upper side has no key twice.

Main statement: a value that is no mapping, found where two sides meet, is that of the upper side
if there is one (`or_of_overlay?_eq_some`).
-/

namespace SchemaAtlas.Data

open Keyed

/-- What is under a key, where `lower` and `upper` are what the two sides have there. -/
def overlay? : Option Data → Option Data → Option Data
  | lower, none => lower
  | none, some value => some value
  | some old, some value => some (overlay old value)

/-- The value under a key of a mapping. -/
def valueAt? (d : Data) (key : Scalar) : Option Data :=
  d.entries?.bind (get? · key)

/-- The value under the key of a mapping that agrees with `key`. -/
def under? (d : Data) (key : Scalar) : Option Data :=
  d.entries?.bind (valueOf? · key)

/-- A mapping with at most one entry under the key. -/
def HasOnce (d : Data) (key : Scalar) : Prop :=
  ∃ entries : Keyed Data Scalar, d = mapping entries ∧ entries.Once key

/-- No mapping in the value names one entry twice, apart from what lists hold. -/
inductive IsProper : Data → Prop
  | scalar (s : Scalar) : IsProper (scalar s)
  | list (items : List Data) : IsProper (list items)
  | mapping (entries : Keyed Data Scalar)
    (once : ∀ name : String, entries.Once (.text name))
    (values : ∀ e ∈ entries, IsProper e.2) : IsProper (mapping entries)

/-- Every mapping in the value has distinct keys, apart from what lists hold. -/
inductive IsWellKeyed : Data → Prop
  | scalar (s : Scalar) : IsWellKeyed (scalar s)
  | list (items : List Data) : IsWellKeyed (list items)
  | mapping (entries : Keyed Data Scalar) (distinct : HasDistinctKeys entries)
    (values : ∀ e ∈ entries, IsWellKeyed e.2) : IsWellKeyed (mapping entries)

variable {lower upper : Keyed Data Scalar} {key : Scalar} {d old : Data}

/-! ### One side -/

@[simp] theorem overlay?_none (d : Option Data) : overlay? d none = d := by
  cases d <;> rfl

@[simp] theorem none_overlay? (d : Option Data) : overlay? none d = d := by
  cases d <;> rfl

@[simp] theorem overlay?_some_some (old d : Data) :
    overlay? (some old) (some d) = some (overlay old d) := rfl

theorem overlay_of_entries?_eq_none (h : d.entries? = none) : overlay old d = d := by
  cases d with
  | mapping entries => cases h
  | scalar s => simp [overlay]
  | list items => simp [overlay]

theorem overlay_mapping_mapping (lower upper : Keyed Data Scalar) :
    overlay (.mapping lower) (.mapping upper) = .mapping (overlayEntries lower upper) := by
  simp [overlay]

theorem overlay_mapping_of_entries?_eq_none (h : old.entries? = none)
    (upper : Keyed Data Scalar) : overlay old (.mapping upper) = .mapping upper := by
  cases old with
  | mapping entries => cases h
  | scalar s => simp [overlay]
  | list items => simp [overlay]

/-- What is laid over a value decides whether the result is a mapping. -/
theorem isSome_entries?_overlay (old d : Data) :
    (overlay old d).entries?.isSome = d.entries?.isSome := by
  cases d with
  | scalar s => simp [overlay, entries?]
  | list items => simp [overlay, entries?]
  | mapping upper => cases old <;> simp [overlay, entries?]

theorem IsProper.of_get? (h : IsProper (.mapping lower)) (hget : lower.get? key = some d) :
    d.IsProper := by
  cases h with
  | mapping _ _ values => exact values _ (mem_of_get?_eq_some hget)

theorem IsProper.once (h : IsProper (.mapping lower)) (name : String) :
    lower.Once (.text name) := by
  cases h with
  | mapping _ once _ => exact once name

theorem IsProper.hasOnce (h : d.IsProper) (hd : d.entries?.isSome) (name : String) :
    d.HasOnce name := by
  cases h with
  | scalar s => cases hd
  | list items => cases hd
  | mapping entries once _ => exact ⟨entries, rfl, once name⟩

theorem isWellKeyed_mapping_iff {entries : Keyed Data Scalar} :
    (mapping entries).IsWellKeyed ↔ HasDistinctKeys entries ∧ ∀ e ∈ entries, e.2.IsWellKeyed := by
  constructor
  · rintro ⟨⟩
    exact ⟨‹_›, ‹_›⟩
  · exact fun h => .mapping entries h.1 h.2

theorem IsWellKeyed.putEntry (h : IsWellKeyed (.mapping lower)) (key : Scalar)
    (hd : d.IsWellKeyed) : IsWellKeyed (.mapping (putEntry lower key d)) := by
  obtain ⟨hdistinct, hvalues⟩ := isWellKeyed_mapping_iff.1 h
  refine .mapping _ (hdistinct.putEntry key d) fun e he => ?_
  rcases mem_putEntry he with hvalue | he
  · rwa [hvalue]
  · exact hvalues e he

theorem IsWellKeyed.of_valueOf? (h : IsWellKeyed (.mapping lower))
    (hd : valueOf? lower key = some d) : d.IsWellKeyed := by
  obtain ⟨e, he, -, rfl⟩ := mem_of_valueOf?_eq_some hd
  exact (isWellKeyed_mapping_iff.1 h).2 e he

theorem IsWellKeyed.isProper (h : d.IsWellKeyed) : d.IsProper := by
  induction h with
  | scalar s => exact .scalar s
  | list items => exact .list items
  | mapping entries distinct _ ih =>
    exact .mapping entries (fun name => namesOnce_text_iff.1 (distinct.namesOnce _)) ih

/-! ### Keys that are texts -/

theorem get?_textKeyed (entries : Keyed Data) (name : String) :
    get? (textKeyed entries) (.text name) = entries.get? name := by
  induction entries with
  | nil => rfl
  | cons e entries ih =>
    show get? ((.text e.1, e.2) :: textKeyed entries) _ = _
    rw [get?_cons, get?_cons, ih]
    simp

theorem mem_keys_textKeyed {entries : Keyed Data} (h : key ∈ keys (textKeyed entries)) :
    ∃ name ∈ entries.keys, key = .text name := by
  rw [keys, textKeyed, List.map_map, List.mem_map] at h
  obtain ⟨e, he, rfl⟩ := h
  exact ⟨e.1, List.mem_map_of_mem he, rfl⟩

/-- Entries whose keys are texts. -/
theorem exists_eq_textKeyed {p : String → Prop} {entries : Keyed Data Scalar}
    (h : ∀ key ∈ entries.keys, ∃ name, p name ∧ key = .text name) :
    ∃ named : Keyed Data, entries = textKeyed named ∧ ∀ e ∈ named, p e.1 := by
  induction entries with
  | nil => exact ⟨[], rfl, fun _ => nofun⟩
  | cons e entries ih =>
    obtain ⟨key, value⟩ := e
    obtain ⟨⟨name, hname, hkey⟩, hkeys⟩ := List.forall_mem_cons.1 h
    obtain rfl : key = .text name := hkey
    obtain ⟨named, rfl, hnamed⟩ := ih hkeys
    exact ⟨(name, value) :: named, rfl, List.forall_mem_cons.2 ⟨hname, hnamed⟩⟩

theorem nodup_keys_textKeyed {entries : Keyed Data} (h : entries.keys.Nodup) :
    (keys (textKeyed entries)).Nodup := by
  rw [keys_textKeyed]
  exact h.map fun _ _ => Scalar.text.inj

theorem isProper_record {entries : Keyed Data} (h : entries.keys.Nodup)
    (hvalues : ∀ e ∈ entries, e.2.IsProper) : (record entries).IsProper := by
  refine .mapping _ (fun name => once_of_nodup (nodup_keys_textKeyed h) _) ?_
  rw [textKeyed, List.forall_mem_map]
  exact hvalues

theorem isWellKeyed_record {entries : Keyed Data} (h : entries.keys.Nodup)
    (hvalues : ∀ e ∈ entries, e.2.IsWellKeyed) : (record entries).IsWellKeyed := by
  refine .mapping _ (hasDistinctKeys_textKeyed h) ?_
  rw [textKeyed, List.forall_mem_map]
  exact hvalues

theorem textKeyed_of_textKeyed? {entries : Keyed Data Scalar} {named : Keyed Data}
    (h : textKeyed? entries = some named) : textKeyed named = entries := by
  induction entries generalizing named with
  | nil =>
    obtain rfl : [] = named := by simpa [textKeyed?] using h
    rfl
  | cons e entries ih =>
    rw [textKeyed?, List.mapM_cons] at h
    obtain ⟨first, hfirst, h⟩ := Option.bind_eq_some_iff.1 h
    obtain ⟨more, hmore, h⟩ := Option.bind_eq_some_iff.1 h
    obtain ⟨name, hname, rfl⟩ := Option.map_eq_some_iff.1 hfirst
    obtain rfl : (name, e.2) :: more = named := Option.some.inj h
    have hkey : e.1 = .text name := by
      cases he : e.1 <;> simp_all [Scalar.text?]
    show (Scalar.text name, e.2) :: textKeyed more = e :: entries
    rw [ih hmore, ← hkey]

/-! ### Entries -/

theorem valueOf?_overlayEntries (h : NamesOnce upper key) :
    valueOf? (overlayEntries lower upper) key =
      overlay? (valueOf? lower key) (valueOf? upper key) := by
  induction upper generalizing lower with
  | nil => simp [overlayEntries]
  | cons e upper ih =>
    obtain ⟨name, value⟩ := e
    rw [overlayEntries, ih h.of_cons, valueOf?_putEntry, valueOf?_cons]
    by_cases hname : name.agrees key
    · rw [if_pos hname, if_pos hname, h.valueOf?_of_cons hname, overlay?_none,
        valueOf?_congr hname lower]
      cases valueOf? lower key <;> rfl
    · rw [if_neg hname, if_neg hname]

theorem get?_overlayEntries {name : String} (h : upper.Once (.text name)) :
    get? (overlayEntries lower upper) (.text name) =
      overlay? (lower.get? (.text name)) (upper.get? (.text name)) := by
  simp only [← valueOf?_text]
  exact valueOf?_overlayEntries (namesOnce_text_iff.2 h)

theorem once_overlayEntries (h : lower.Once key) : Once (overlayEntries lower upper) key := by
  induction upper generalizing lower with
  | nil => rwa [overlayEntries_nil]
  | cons e upper ih =>
    obtain ⟨name, value⟩ := e
    rw [overlayEntries]
    exact ih (once_putEntry h)

theorem mem_keys_overlayEntries (h : key ∈ keys (overlayEntries lower upper)) :
    key ∈ lower.keys ∨ key ∈ upper.keys := by
  induction upper generalizing lower with
  | nil =>
    rw [overlayEntries_nil] at h
    exact .inl h
  | cons e upper ih =>
    obtain ⟨name, value⟩ := e
    rw [overlayEntries] at h
    obtain hput | hupper := ih h
    · rw [keys_putEntry] at hput
      split at hput
      · exact .inl hput
      · rcases List.mem_append.1 hput with hlower | hname
        · exact .inl hlower
        · exact .inr (List.mem_singleton.1 hname ▸ List.mem_cons_self)
    · exact .inr (List.mem_cons_of_mem _ hupper)

/-- Entries under different keys are laid behind each other. -/
theorem overlayEntries_of_distinct (h : HasDistinctKeys (lower ++ upper)) :
    overlayEntries lower upper = lower ++ upper := by
  induction upper generalizing lower with
  | nil => rw [overlayEntries_nil, List.append_nil]
  | cons e upper ih =>
    obtain ⟨key, value⟩ := e
    have hnew : ∀ f ∈ lower, ¬ f.1.agrees key := fun f hf =>
      (hasDistinctKeys_append_iff.1 h).2.2 f hf _ List.mem_cons_self
    rw [overlayEntries, valueOf?_eq_none_iff.2 hnew, putEntry_of_not_agrees hnew,
      ih (by simpa using h), List.append_assoc]
    rfl

theorem overlayEntries_nil_left (h : HasDistinctKeys upper) : overlayEntries [] upper = upper :=
  overlayEntries_of_distinct h

theorem hasOnce_overlay (hold : old.HasOnce key) (h : d.HasOnce key) :
    (overlay old d).HasOnce key := by
  obtain ⟨lower, rfl, hlower⟩ := hold
  obtain ⟨upper, rfl, -⟩ := h
  exact ⟨_, overlay_mapping_mapping lower upper, once_overlayEntries hlower⟩

/-- Below a mapping that is laid over a value, the entries are laid over each other. -/
theorem under?_overlay (h : NamesOnce upper key) :
    (overlay old (.mapping upper)).under? key = overlay? (old.under? key) (valueOf? upper key) := by
  cases hold : old.entries? with
  | none =>
    rw [overlay_mapping_of_entries?_eq_none hold, under?, under?, hold]
    exact (none_overlay? _).symm
  | some lower =>
    obtain rfl : old = .mapping lower := by
      cases old <;> simp_all [entries?]
    rw [overlay_mapping_mapping]
    exact valueOf?_overlayEntries h

theorem under?_text (d : Data) (name : String) : d.under? (.text name) = d.valueAt? name := by
  rw [under?, valueAt?]
  exact Option.bind_congr fun entries _ => valueOf?_text entries name

theorem valueAt?_overlay {name : String} (h : d.HasOnce name) :
    (overlay old d).valueAt? name = overlay? (old.valueAt? name) (d.valueAt? name) := by
  obtain ⟨upper, rfl, honce⟩ := h
  simp only [← under?_text]
  exact under?_overlay (namesOnce_text_iff.2 honce)

/-- The same where a side may state nothing. -/
theorem bind_valueAt?_overlay? {lower upper : Option Data} {name : String}
    (h : ∀ d ∈ upper, d.HasOnce name) :
    (overlay? lower upper).bind (valueAt? · name) =
      overlay? (lower.bind (valueAt? · name)) (upper.bind (valueAt? · name)) := by
  cases upper with
  | none => rw [overlay?_none, Option.bind_none, overlay?_none]
  | some d =>
    cases lower with
    | none => rw [none_overlay?, Option.bind_none, none_overlay?]
    | some old => exact valueAt?_overlay (h d rfl)

theorem hasOnce_overlay? {lower upper : Option Data} (hlower : ∀ d ∈ lower, d.HasOnce key)
    (hupper : ∀ d ∈ upper, d.HasOnce key) : ∀ d ∈ overlay? lower upper, d.HasOnce key := by
  intro d hd
  cases upper with
  | none =>
    rw [overlay?_none] at hd
    exact hlower d hd
  | some value =>
    cases lower with
    | none =>
      rw [none_overlay?] at hd
      exact hupper d hd
    | some old =>
      obtain rfl : overlay old value = d := Option.some.inj hd
      exact hasOnce_overlay (hlower old rfl) (hupper value rfl)

/-! ### Two sides -/

theorem overlay?_eq_none_iff {lower upper : Option Data} :
    overlay? lower upper = none ↔ upper = none ∧ lower = none := by
  cases lower <;> cases upper <;> simp

/-- Over a value that is no mapping, the upper side is kept as it is. -/
theorem overlay?_eq_or_of_lower {lower upper : Option Data} (h : ∀ d ∈ lower, d.entries? = none) :
    overlay? lower upper = upper.or lower := by
  cases upper with
  | none => simp
  | some value =>
    cases lower with
    | none => simp
    | some old =>
      cases value with
      | mapping entries =>
        exact congrArg some (overlay_mapping_of_entries?_eq_none (h old rfl) entries)
      | scalar s => exact congrArg some (overlay_of_entries?_eq_none rfl)
      | list items => exact congrArg some (overlay_of_entries?_eq_none rfl)

/-- If a mapping is found where two sides meet, then what the upper side has is one. -/
theorem isSome_entries?_of_overlay?_eq_some {lower : Option Data} {value : Data}
    (h : overlay? lower (some value) = some d) : value.entries?.isSome = d.entries?.isSome := by
  cases lower with
  | none =>
    obtain rfl : value = d := by simpa using h
    rfl
  | some old =>
    obtain rfl : overlay old value = d := Option.some.inj h
    exact (isSome_entries?_overlay old value).symm

theorem isSome_entries?_of_overlay? {lower upper : Option Data}
    (h : ∀ d ∈ overlay? lower upper, d.entries?.isSome) : ∀ d ∈ upper, d.entries?.isSome := by
  rintro value rfl
  cases hfound : overlay? lower (some value) with
  | none => exact nomatch (overlay?_eq_none_iff.1 hfound).1
  | some d =>
    rw [isSome_entries?_of_overlay?_eq_some hfound]
    exact h d hfound

/-- What is found and is no mapping comes from the upper side, or else from the lower. -/
theorem or_of_overlay?_eq_some {lower upper : Option Data} (h : overlay? lower upper = some d)
    (hd : d.entries? = none) : upper.or lower = some d := by
  cases upper with
  | none => simpa using h
  | some value =>
    have hvalue : value.entries? = none := by
      rw [← Option.not_isSome_iff_eq_none, isSome_entries?_of_overlay?_eq_some h, hd]
      exact Bool.false_ne_true
    cases lower with
    | none => simpa using h
    | some old =>
      obtain rfl : overlay old value = d := Option.some.inj h
      rw [overlay_of_entries?_eq_none hvalue]
      rfl

/-- What is found where no two mappings meet. -/
theorem overlay?_eq_or {lower upper : Option Data}
    (h : ∀ d ∈ overlay? lower upper, d.entries? = none) :
    overlay? lower upper = upper.or lower := by
  cases hfound : overlay? lower upper with
  | none =>
    obtain ⟨rfl, rfl⟩ := overlay?_eq_none_iff.1 hfound
    rfl
  | some d => exact (or_of_overlay?_eq_some hfound (h d hfound)).symm

/-- The same with two sides that are laid over two others. -/
theorem overlay?_overlay?_eq_or {a b c d : Option Data}
    (h : ∀ x ∈ overlay? (overlay? a b) (overlay? c d), x.entries? = none) :
    overlay? (overlay? a b) (overlay? c d) = (d.or c).or (b.or a) := by
  have hor := overlay?_eq_or h
  rw [hor] at h ⊢
  cases hupper : overlay? c d with
  | none =>
    rw [hupper, Option.none_or] at h
    obtain ⟨rfl, rfl⟩ := overlay?_eq_none_iff.1 hupper
    exact overlay?_eq_or h
  | some x =>
    rw [hupper, Option.some_or] at h
    rw [or_of_overlay?_eq_some hupper (h x rfl)]
    rfl

end SchemaAtlas.Data

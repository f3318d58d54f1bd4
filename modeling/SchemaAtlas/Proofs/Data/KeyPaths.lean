import SchemaAtlas.Proofs.Data.Overlay

/-!
# Values at the ends of key paths

A path of keys leads through the mappings of a value, to the value at its end (`resolve?`).  It is
cut off if a value that is no mapping stands on the way (`IsCutOff`).  Where the upper of two values
does not cut a path off, what both have at its end is laid over each other (`resolve?_overlay`).

Main result: entries laid over each other have, at the end of every path, the value of the upper
side if it is no mapping, and what the lower side has where the upper side has nothing and is not
cut off; entries laid over themselves, over none or under none are kept
(`isLaidOver_overlayEntries`).
-/

namespace SchemaAtlas.Data

variable {d lower upper v : Data} {key : Scalar} {path : List Scalar}

/-- The value at the end of a path of keys. -/
def resolve? (d : Data) : List Scalar → Option Data
  | [] => some d
  | key :: path => (d.under? key).bind (resolve? · path)

/-- A value that is no mapping stands at the end of a proper front of the path. -/
def IsCutOff (d : Data) (path : List Scalar) : Prop :=
  ∃ front, front <+: path ∧ front ≠ path ∧ ∃ v, d.resolve? front = some v ∧ v.entries? = none

/-- What is at the ends of the paths of `merged`, where `upper` comes before `lower`. -/
structure IsLaidOver (lower upper merged : Data) : Prop where
  /-- A value of the upper side that is no mapping is kept. -/
  above : ∀ path v, v.entries? = none → upper.resolve? path = some v →
    merged.resolve? path = some v
  /-- Where the upper side has nothing and is not cut off, there is what the lower side has. -/
  below : ∀ path, upper.resolve? path = none → ¬ upper.IsCutOff path →
    merged.resolve? path = lower.resolve? path
  /-- No other path leads to a value that is no mapping. -/
  nowhere : ∀ path v, v.entries? = none → merged.resolve? path = some v →
    (∃ w, w.entries? = none ∧ upper.resolve? path = some w) ∨
      (upper.resolve? path = none ∧ ¬ upper.IsCutOff path)

/-! ### Paths -/

theorem resolve?_append (d : Data) (front rest : List Scalar) :
    d.resolve? (front ++ rest) = (d.resolve? front).bind (resolve? · rest) := by
  induction front generalizing d with
  | nil => rfl
  | cons key front ih =>
    rw [List.cons_append, resolve?, resolve?, Option.bind_assoc]
    exact Option.bind_congr fun v _ => ih v

theorem resolve?_cons_of_entries?_eq_none (h : d.entries? = none) :
    d.resolve? (key :: path) = none := by
  rw [resolve?, under?, h]
  rfl

/-- A path that is cut off leads nowhere. -/
theorem IsCutOff.resolve?_eq_none (h : d.IsCutOff path) : d.resolve? path = none := by
  obtain ⟨front, ⟨rest, rfl⟩, hne, v, hv, hmapping⟩ := h
  cases rest with
  | nil => exact absurd (List.append_nil front).symm hne
  | cons key rest =>
    rw [resolve?_append, hv]
    exact resolve?_cons_of_entries?_eq_none hmapping

theorem not_isCutOff_of_resolve? (h : d.resolve? path = some v) : ¬ d.IsCutOff path :=
  fun hpath => nomatch hpath.resolve?_eq_none.symm.trans h

theorem isCutOff_of_entries?_eq_none (h : d.entries? = none) : d.IsCutOff (key :: path) :=
  ⟨[], List.nil_prefix, (List.cons_ne_nil _ _).symm, d, rfl, h⟩

theorem IsCutOff.cons (h : v.IsCutOff path) (hv : d.under? key = some v) :
    d.IsCutOff (key :: path) := by
  obtain ⟨front, hfront, hne, w, hw, hmapping⟩ := h
  refine ⟨key :: front, List.cons_prefix_cons.2 ⟨rfl, hfront⟩, fun h => hne (List.cons.inj h).2,
    w, ?_, hmapping⟩
  rw [resolve?, hv]
  exact hw

/-! ### Paths of values laid over each other -/

theorem overlay?_of_entries?_eq_none (h : d.entries? = none) (old : Option Data) :
    overlay? old (some d) = some d := by
  cases old with
  | none => rfl
  | some old => exact congrArg some (overlay_of_entries?_eq_none h)

/-- At the end of a path that the upper side does not cut off, both sides are laid over each
other. -/
theorem resolve?_overlay (h : upper.IsWellKeyed) (hpath : ¬ upper.IsCutOff path) :
    (overlay lower upper).resolve? path =
      overlay? (lower.resolve? path) (upper.resolve? path) := by
  induction path generalizing lower upper with
  | nil => rfl
  | cons key path ih =>
    cases h with
    | scalar s => exact absurd (isCutOff_of_entries?_eq_none rfl) hpath
    | list items => exact absurd (isCutOff_of_entries?_eq_none rfl) hpath
    | mapping entries distinct values =>
      have hentries : (mapping entries).under? key = valueOf? entries key := rfl
      rw [resolve?, resolve?, resolve?, under?_overlay (distinct.namesOnce key), hentries]
      cases hupper : valueOf? entries key with
      | none => rw [overlay?_none, Option.bind_none, overlay?_none]
      | some value =>
        have hvalue : ¬ value.IsCutOff path := fun h => hpath (h.cons hupper)
        cases hlower : lower.under? key with
        | none => rw [none_overlay?, Option.bind_none, none_overlay?]
        | some old => exact ih ((IsWellKeyed.mapping _ distinct values).of_valueOf? hupper) hvalue

theorem isCutOff_overlay (h : upper.IsWellKeyed) (hpath : upper.IsCutOff path) (lower : Data) :
    (overlay lower upper).IsCutOff path := by
  obtain ⟨front, hfront, hne, v, hv, hmapping⟩ := hpath
  refine ⟨front, hfront, hne, v, ?_, hmapping⟩
  rw [resolve?_overlay h (not_isCutOff_of_resolve? hv), hv, overlay?_of_entries?_eq_none hmapping]

theorem isLaidOver_overlay (h : upper.IsWellKeyed) (lower : Data) :
    IsLaidOver lower upper (overlay lower upper) where
  above path v hmapping hv := by
    rw [resolve?_overlay h (not_isCutOff_of_resolve? hv), hv,
      overlay?_of_entries?_eq_none hmapping]
  below path hnone hpath := by
    rw [resolve?_overlay h hpath, hnone, overlay?_none]
  nowhere path v hmapping hv := by
    have hpath : ¬ upper.IsCutOff path := fun hpath =>
      not_isCutOff_of_resolve? hv (isCutOff_overlay h hpath lower)
    cases hupper : upper.resolve? path with
    | none => exact .inr ⟨rfl, hpath⟩
    | some w =>
      -- A mapping of the upper side would be one here too.
      rw [resolve?_overlay h hpath, hupper] at hv
      have hor := or_of_overlay?_eq_some hv hmapping
      exact .inl ⟨w, by rwa [Option.some.inj hor], rfl⟩

/-! ### Distinct keys of values laid over each other -/

section

variable {base top : Keyed Data Scalar}

theorem isWellKeyed_overlayEntries (hbase : IsWellKeyed (.mapping base))
    (h : ∀ e ∈ top, e.2.IsWellKeyed ∧ ∀ old, old.IsWellKeyed → (overlay old e.2).IsWellKeyed) :
    IsWellKeyed (.mapping (overlayEntries base top)) := by
  induction top generalizing base with
  | nil => rwa [overlayEntries_nil]
  | cons e top ih =>
    obtain ⟨key, value⟩ := e
    obtain ⟨⟨hvalue, hmerged⟩, hmore⟩ := List.forall_mem_cons.1 h
    rw [overlayEntries]
    refine ih (hbase.putEntry key ?_) hmore
    cases hold : valueOf? base key with
    | none => exact hvalue
    | some old => exact hmerged old (hbase.of_valueOf? hold)

theorem isWellKeyed_overlay (hlower : lower.IsWellKeyed) (hupper : upper.IsWellKeyed) :
    (overlay lower upper).IsWellKeyed := by
  induction hupper generalizing lower with
  | scalar s =>
    rw [overlay_of_entries?_eq_none rfl]
    exact .scalar s
  | list items =>
    rw [overlay_of_entries?_eq_none rfl]
    exact .list items
  | mapping top distinct values ih =>
    cases lower with
    | scalar s =>
      rw [overlay_mapping_of_entries?_eq_none rfl]
      exact .mapping top distinct values
    | list items =>
      rw [overlay_mapping_of_entries?_eq_none rfl]
      exact .mapping top distinct values
    | mapping base =>
      rw [overlay_mapping_mapping]
      exact isWellKeyed_overlayEntries hlower fun e he => ⟨values e he, fun _ hold => ih e he hold⟩

/-! ### Values laid over themselves -/

/-- Entries that change nothing under their keys change nothing together. -/
theorem overlayEntries_eq_self
    (h : ∀ e ∈ top, ∃ old, valueOf? base e.1 = some old ∧ overlay old e.2 = old) :
    overlayEntries base top = base := by
  induction top with
  | nil => exact overlayEntries_nil base
  | cons e top ih =>
    obtain ⟨⟨old, hold, hsame⟩, hmore⟩ := List.forall_mem_cons.1 h
    rw [overlayEntries, hold]
    dsimp only
    rw [hsame, putEntry_of_valueOf? hold, ih hmore]

theorem overlay_self (h : d.IsWellKeyed) : overlay d d = d := by
  induction h with
  | scalar s => exact overlay_of_entries?_eq_none rfl
  | list items => exact overlay_of_entries?_eq_none rfl
  | mapping entries distinct _ ih =>
    rw [overlay_mapping_mapping]
    exact congrArg mapping (overlayEntries_eq_self fun e he =>
      ⟨e.2, distinct.valueOf?_of_mem he, ih e he⟩)

theorem overlayEntries_self (h : IsWellKeyed (.mapping base)) :
    overlayEntries base base = base := by
  have hself := overlay_self h
  rw [overlay_mapping_mapping] at hself
  exact mapping.inj hself

/-- Entries laid over others have what either side says at the end of every path, and distinct
keys.  Entries laid over themselves, over none or under none are kept. -/
theorem isLaidOver_overlayEntries (hbase : IsWellKeyed (.mapping base))
    (htop : IsWellKeyed (.mapping top)) :
    IsLaidOver (.mapping base) (.mapping top) (.mapping (overlayEntries base top)) ∧
      IsWellKeyed (.mapping (overlayEntries base top)) ∧
      overlayEntries base base = base ∧ overlayEntries base [] = base ∧
      overlayEntries [] base = base := by
  rw [← overlay_mapping_mapping]
  exact ⟨isLaidOver_overlay htop _, isWellKeyed_overlay hbase htop, overlayEntries_self hbase,
    overlayEntries_nil base, overlayEntries_nil_left (isWellKeyed_mapping_iff.1 hbase).1⟩

/-- A mapping over a number, a mapping over another, and a key over one that agrees with it. -/
theorem isLaidOver_of_three_meetings :
    IsWellKeyed (.mapping [(.text "a", .int 5), (.text "b", .record [("c", .int 1)]),
      (.int 1, .text "x")]) ∧
    IsWellKeyed (.mapping [(.text "a", .record [("c", .int 2)]),
      (.text "b", .record [("d", .int 3)]), (.bool true, .text "y")]) ∧
    IsLaidOver
      (.mapping [(.text "a", .int 5), (.text "b", .record [("c", .int 1)]), (.int 1, .text "x")])
      (.mapping [(.text "a", .record [("c", .int 2)]), (.text "b", .record [("d", .int 3)]),
        (.bool true, .text "y")])
      (.mapping [(.text "a", .record [("c", .int 2)]),
        (.text "b", .record [("c", .int 1), ("d", .int 3)]), (.int 1, .text "y")]) := by
  have hbase : IsWellKeyed (.mapping [(.text "a", .int 5), (.text "b", .record [("c", .int 1)]),
      (.int 1, .text "x")]) := by
    refine .mapping _ (by unfold HasDistinctKeys; decide) ?_
    simp only [List.forall_mem_cons]
    exact ⟨.scalar _, isWellKeyed_record (by decide) (List.forall_mem_singleton.2 (.scalar _)),
      .scalar _, fun _ => nofun⟩
  have htop : IsWellKeyed (.mapping [(.text "a", .record [("c", .int 2)]),
      (.text "b", .record [("d", .int 3)]), (.bool true, .text "y")]) := by
    refine .mapping _ (by unfold HasDistinctKeys; decide) ?_
    simp only [List.forall_mem_cons]
    exact ⟨isWellKeyed_record (by decide) (List.forall_mem_singleton.2 (.scalar _)),
      isWellKeyed_record (by decide) (List.forall_mem_singleton.2 (.scalar _)), .scalar _,
      fun _ => nofun⟩
  exact ⟨hbase, htop, (isLaidOver_overlayEntries hbase htop).1⟩

end

end SchemaAtlas.Data

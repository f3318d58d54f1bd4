import SchemaAtlas.Keyed
import SchemaAtlas.Proofs.Lists

/-!
# Entries put one after another

The keys of a keyed list are those under which there is a value (`isSome_get?_iff`).  In a keyed
list that was made of entries, the last entry of a key counts (`get?_ofList`), and the
keys stand in the order of their first entries (`keys_ofList`).  A key that is there `Once` has no
second entry behind the first.
-/

namespace SchemaAtlas.Keyed

variable {α κ : Type} [DecidableEq κ]

theorem isSome_get?_iff {entries : Keyed α κ} {key : κ} :
    (entries.get? key).isSome ↔ key ∈ entries.keys := by
  rw [get?, Option.isSome_map, List.find?_isSome, keys, List.mem_map]
  simp only [beq_iff_eq]

theorem mem_of_get?_eq_some {entries : Keyed α κ} {key : κ} {a : α}
    (h : entries.get? key = some a) : (key, a) ∈ entries := by
  obtain ⟨e, he, rfl⟩ := Option.map_eq_some_iff.1 h
  have hkey : e.1 = key := by simpa using List.find?_some he
  rw [← hkey]
  exact List.mem_of_find?_eq_some he

theorem get?_eq_some_iff_of_nodup {entries : Keyed α κ} (h : entries.keys.Nodup) {key : κ}
    {a : α} : entries.get? key = some a ↔ (key, a) ∈ entries := by
  constructor
  · exact mem_of_get?_eq_some
  · intro hmem
    rw [get?, (find?_eq_some_iff_of_nodup h).2 ⟨hmem, rfl⟩]
    rfl

theorem ofList_concat (entries : List (κ × α)) (e : κ × α) :
    ofList (entries ++ [e]) = put (ofList entries) e.1 e.2 :=
  List.foldl_concat _ _ _ _

theorem get?_ofList (entries : List (κ × α)) (key : κ) :
    (ofList entries).get? key = get? entries.reverse key := by
  induction entries using List.reverseRecOn with
  | nil => rfl
  | append_singleton entries e ih =>
    rw [ofList_concat, get?_put, ih, List.reverse_concat, get?_cons]

theorem keys_ofList (entries : List (κ × α)) :
    (ofList entries).keys = (entries.map Prod.fst).eraseDups := by
  induction entries using List.reverseRecOn with
  | nil => rfl
  | append_singleton entries e ih =>
    rw [ofList_concat, keys_put, ih, List.map_append, List.map_singleton, eraseDups_concat]
    simp only [List.mem_eraseDups]

theorem put_of_notMem {entries : Keyed α κ} {key : κ} (h : key ∉ entries.keys) (value : α) :
    entries.put key value = entries ++ [(key, value)] := by
  induction entries with
  | nil => rfl
  | cons e entries ih =>
    obtain ⟨hne, hrest⟩ : key ≠ e.1 ∧ key ∉ keys entries := by
      simpa [keys, not_or] using h
    rw [put, if_neg (by simpa using Ne.symm hne), ih hrest, List.cons_append]

/-- Entries of different keys are kept as they are. -/
theorem ofList_of_nodup {entries : Keyed α κ} (h : entries.keys.Nodup) :
    ofList entries = entries := by
  induction entries using List.reverseRecOn with
  | nil => rfl
  | append_singleton entries e ih =>
    have hkeys : (entries ++ [e]).map Prod.fst = (entries.map Prod.fst).concat e.1 := by simp
    rw [keys, hkeys, List.nodup_concat] at h
    rw [ofList_concat, ih h.2, put_of_notMem h.1]

theorem get?_append (entries others : Keyed α κ) (key : κ) :
    get? (entries ++ others) key = (entries.get? key).or (others.get? key) := by
  rw [get?, List.find?_append, Option.map_or]
  rfl

theorem get?_filter (keep : κ → Bool) (entries : Keyed α κ) (key : κ) :
    get? (entries.filter fun e => keep e.1) key = if keep key then entries.get? key else none := by
  induction entries with
  | nil => simp
  | cons e entries ih =>
    by_cases he : e.1 = key
    · subst he
      by_cases hkeep : keep e.1 <;> simp_all [get?_cons]
    · by_cases hkeep : keep e.1 <;> simp_all [get?_cons]

theorem get?_map {β : Type} (f : α → β) (entries : Keyed α κ) (key : κ) :
    get? (entries.map fun e => (e.1, f e.2)) key = (entries.get? key).map f := by
  induction entries with
  | nil => rfl
  | cons e entries ih =>
    rw [List.map_cons, get?_cons, get?_cons, ih]
    split <;> rfl

/-- Entries that correspond one by one have corresponding values. -/
theorem get?_of_forall₂ {β ι : Type} [DecidableEq ι] {f : κ → ι} (hf : f.Injective)
    {R : α → β → Prop} {entries : Keyed α κ} {others : Keyed β ι}
    (h : List.Forall₂ (fun e o => o.1 = f e.1 ∧ R e.2 o.2) entries others) (key : κ) :
    match entries.get? key with
    | some a => ∃ b, others.get? (f key) = some b ∧ R a b
    | none => others.get? (f key) = none := by
  induction h with
  | nil => rfl
  | @cons e o entries others he _ ih =>
    rw [get?_cons, get?_cons, he.1, if_congr hf.eq_iff rfl rfl]
    split_ifs
    · exact ⟨o.2, rfl, he.2⟩
    · exact ih

/-! ### Values that are found for names -/

omit [DecidableEq κ] in
theorem keys_filterMap_sublist (names : List κ) (f : κ → Option α) :
    (keys (names.filterMap fun name => (f name).map fun a => (name, a))).Sublist names := by
  induction names with
  | nil => exact .slnil
  | cons name names ih =>
    rw [List.filterMap_cons]
    cases f name with
    | none => exact ih.cons name
    | some a => exact ih.cons_cons name

theorem get?_filterMap (names : List κ) (f : κ → Option α) (name : κ) :
    get? (names.filterMap fun name => (f name).map fun a => (name, a)) name =
      if name ∈ names then f name else none := by
  induction names with
  | nil => rfl
  | cons first names ih =>
    rw [List.filterMap_cons]
    by_cases hfirst : first = name
    · subst hfirst
      cases hf : f first with
      | none => simp [ih, hf]
      | some a => simp [get?_cons]
    · have hmem : name ∈ first :: names ↔ name ∈ names := by
        simp [Ne.symm hfirst]
      simp only [hmem]
      cases f first with
      | none => exact ih
      | some a => simpa [get?_cons, hfirst] using ih

section

variable {ε : Type} {names : List κ} {f : κ → Except ε (Option α)}
  {found : List (Option (κ × α))}

omit [DecidableEq κ] in
theorem filterMap_of_mapM
    (hfound : names.mapM (fun name => do return (← f name).map fun a => (name, a)) = .ok found) :
    (∀ name ∈ names, f name = .ok (f name).toOption.join) ∧
      found.filterMap id =
        names.filterMap fun name => (f name).toOption.join.map fun a => (name, a) := by
  induction names generalizing found with
  | nil =>
    obtain rfl : [] = found := Except.ok.inj hfound
    exact ⟨fun _ => nofun, rfl⟩
  | cons name names ih =>
    rw [List.mapM_cons, bind_eq_ok_iff] at hfound
    obtain ⟨first, hfirst, hfound⟩ := hfound
    obtain ⟨more, hmore, hfound⟩ := bind_eq_ok_iff.1 hfound
    obtain ⟨o, ho, hfirst⟩ := bind_eq_ok_iff.1 hfirst
    obtain rfl : o.map (fun a => (name, a)) = first := Except.ok.inj hfirst
    obtain rfl : _ :: more = found := Except.ok.inj hfound
    obtain ⟨hvalues, hmap⟩ := ih hmore
    have hjoin : (f name).toOption.join = o := by
      rw [ho]
      rfl
    refine ⟨List.forall_mem_cons.2 ⟨ho.trans (congrArg _ hjoin.symm), hvalues⟩, ?_⟩
    rw [List.filterMap_cons, List.filterMap_cons, hjoin, hmap]
    rfl

/-- What a reader that may fail finds for some names is under them. -/
theorem get?_of_mapM
    (hfound : names.mapM (fun name => do return (← f name).map fun a => (name, a)) = .ok found) :
    (keys (found.filterMap id)).Sublist names ∧
      ∀ name ∈ names, f name = .ok (get? (found.filterMap id) name) := by
  obtain ⟨hvalues, hmap⟩ := filterMap_of_mapM hfound
  rw [hmap]
  refine ⟨keys_filterMap_sublist names _, fun name hname => ?_⟩
  rw [get?_filterMap, if_pos hname]
  exact hvalues name hname

end

/-! ### Keys of one entry -/

/-- At most one entry has the key. -/
def Once (entries : Keyed α κ) (key : κ) : Prop :=
  entries.keys.count key ≤ 1

section

variable {entries : Keyed α κ} {key : κ}

theorem once_of_nodup (h : entries.keys.Nodup) (key : κ) : entries.Once key :=
  List.nodup_iff_count_le_one.1 h key

theorem once_of_notMem (h : key ∉ entries.keys) : entries.Once key := by
  rw [Once, List.count_eq_zero.2 h]
  exact Nat.zero_le 1

end

end SchemaAtlas.Keyed

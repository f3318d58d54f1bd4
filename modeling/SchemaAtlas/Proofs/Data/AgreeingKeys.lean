import SchemaAtlas.Data.Basic
import SchemaAtlas.Proofs.Keyed

/-!
# Keys that agree

Agreeing is an equivalence of scalars, and a text agrees with itself alone (`agrees_text_iff`).  So
the entries of a mapping are found and put under classes of keys (`valueOf?_putEntry`), and under a
text as in any keyed list (`valueOf?_text`).

`HasDistinctKeys` says that no two keys agree, and `NamesOnce` that at most one agrees with a given
key.  Putting entries keeps the keys distinct (`HasDistinctKeys.putEntry`).
-/

namespace SchemaAtlas

open Keyed

/-! ### Agreeing scalars -/

theorem Moment.agrees_iff {a b : Moment} :
    a.agrees b ↔ (a.offset = none ∧ a = b) ∨
      ∃ m n, a.offset = some m ∧ b.offset = some n ∧
        a.clock - m * 60000000 = b.clock - n * 60000000 := by
  rw [agrees]
  cases ha : a.offset with
  | none =>
    cases hb : b.offset with
    | none => simp
    | some n =>
      have hne : a ≠ b := fun h => by simp [h, hb] at ha
      simp [hne]
  | some m => cases hb : b.offset <;> simp

theorem Moment.agrees_symm {a b : Moment} (h : a.agrees b) : b.agrees a := by
  rcases agrees_iff.1 h with ⟨-, rfl⟩ | ⟨m, n, hm, hn, h⟩
  · exact agrees_self a
  · exact agrees_iff.2 (.inr ⟨n, m, hn, hm, h.symm⟩)

theorem Moment.agrees_trans {a b c : Moment} (hab : a.agrees b) (hbc : b.agrees c) :
    a.agrees c := by
  rcases agrees_iff.1 hab with ⟨-, rfl⟩ | ⟨m, n, hm, hn, hab⟩
  · exact hbc
  · rcases agrees_iff.1 hbc with ⟨hb, -⟩ | ⟨n', k, hn', hk, hbc⟩
    · exact absurd (hn.symm.trans hb) (by simp)
    · obtain rfl : n = n' := Option.some.inj (hn.symm.trans hn')
      exact agrees_iff.2 (.inr ⟨m, k, hm, hk, hab.trans hbc⟩)

namespace Scalar

variable {a b c : Scalar}

/-- Two scalars agree as moments, as equals or as numbers. -/
theorem agrees_iff : a.agrees b ↔
    (∃ m n, a = .moment m ∧ b = .moment n ∧ m.agrees n) ∨ a = b ∨
      ∃ n, a.worth? = some n ∧ b.worth? = some n := by
  have hworth : (a.worth?.isSome && a.worth? == b.worth?) = true ↔
      ∃ n, a.worth? = some n ∧ b.worth? = some n := by
    cases a.worth? with
    | none => simp
    | some n =>
      rw [Option.isSome_some, Bool.true_and, beq_iff_eq]
      exact ⟨fun h => ⟨n, rfl, h.symm⟩, fun ⟨m, hm, hb⟩ => hm.trans hb.symm⟩
  unfold agrees
  split
  · rename_i m n
    constructor
    · exact fun h => .inl ⟨m, n, rfl, rfl, h⟩
    · rintro (⟨m', n', hm, hn, h⟩ | h | ⟨k, hk, -⟩)
      · obtain rfl := Scalar.moment.inj hm
        obtain rfl := Scalar.moment.inj hn
        exact h
      · obtain rfl := Scalar.moment.inj h
        exact m.agrees_self
      · cases hk
  · rename_i hmoment
    rw [Bool.or_eq_true, beq_iff_eq, hworth]
    refine (or_iff_right ?_).symm
    rintro ⟨m, n, rfl, rfl, -⟩
    exact hmoment m n rfl rfl

theorem agrees_self (a : Scalar) : a.agrees a :=
  agrees_iff.2 (.inr (.inl rfl))

theorem agrees_symm (h : a.agrees b) : b.agrees a := by
  rcases agrees_iff.1 h with ⟨m, n, rfl, rfl, h⟩ | rfl | ⟨n, ha, hb⟩
  · exact agrees_iff.2 (.inl ⟨n, m, rfl, rfl, Moment.agrees_symm h⟩)
  · exact h
  · exact agrees_iff.2 (.inr (.inr ⟨n, hb, ha⟩))

theorem agrees_trans (hab : a.agrees b) (hbc : b.agrees c) : a.agrees c := by
  rcases agrees_iff.1 hab with ⟨m, n, rfl, rfl, hmn⟩ | rfl | ⟨n, ha, hb⟩
  · rcases agrees_iff.1 hbc with ⟨n', k, hn', rfl, hnk⟩ | rfl | ⟨_, hn, -⟩
    · obtain rfl := Scalar.moment.inj hn'
      exact agrees_iff.2 (.inl ⟨m, k, rfl, rfl, Moment.agrees_trans hmn hnk⟩)
    · exact hab
    · cases hn
  · exact hbc
  · rcases agrees_iff.1 hbc with ⟨m, _, rfl, -⟩ | rfl | ⟨k, hk, hc⟩
    · cases hb
    · exact hab
    · exact agrees_iff.2 (.inr (.inr ⟨n, ha, hc.trans (hk.symm.trans hb)⟩))

/-- Scalars that agree agree with the same scalars. -/
theorem agrees_congr (h : a.agrees b) : a.agrees c ↔ b.agrees c :=
  ⟨agrees_trans (agrees_symm h), agrees_trans h⟩

theorem agrees_text_iff {s : String} : a.agrees (.text s) ↔ a = .text s := by
  constructor
  · intro h
    rcases agrees_iff.1 h with ⟨m, n, -, hn, -⟩ | h | ⟨n, -, hn⟩
    · cases hn
    · exact h
    · cases hn
  · rintro rfl
    exact agrees_self _

end Scalar

namespace Data

variable {entries : Keyed Data Scalar} {key : Scalar} {value d : Data}

/-! ### Entries that are found and put -/

@[simp] theorem valueOf?_nil (key : Scalar) : valueOf? [] key = none := rfl

theorem valueOf?_cons (e : Scalar × Data) (entries : Keyed Data Scalar) (key : Scalar) :
    valueOf? (e :: entries) key = if e.1.agrees key then some e.2 else valueOf? entries key := by
  by_cases h : e.1.agrees key <;> simp [valueOf?, h]

theorem valueOf?_eq_none_iff : valueOf? entries key = none ↔ ∀ e ∈ entries, ¬ e.1.agrees key := by
  rw [valueOf?, Option.map_eq_none_iff, List.find?_eq_none]

theorem mem_of_valueOf?_eq_some (h : valueOf? entries key = some d) :
    ∃ e ∈ entries, e.1.agrees key ∧ e.2 = d := by
  obtain ⟨e, he, rfl⟩ := Option.map_eq_some_iff.1 h
  have hagrees := List.find?_some he
  exact ⟨e, List.mem_of_find?_eq_some he, hagrees, rfl⟩

theorem valueOf?_congr {a b : Scalar} (h : a.agrees b) (entries : Keyed Data Scalar) :
    valueOf? entries a = valueOf? entries b := by
  induction entries with
  | nil => rfl
  | cons e entries ih =>
    have hboth : e.1.agrees a ↔ e.1.agrees b :=
      ⟨fun ha => Scalar.agrees_trans ha h, fun hb => Scalar.agrees_trans hb (Scalar.agrees_symm h)⟩
    rw [valueOf?_cons, valueOf?_cons, ih]
    exact if_congr hboth rfl rfl

theorem valueOf?_text (entries : Keyed Data Scalar) (name : String) :
    valueOf? entries (.text name) = entries.get? (.text name) := by
  induction entries with
  | nil => rfl
  | cons e entries ih =>
    rw [valueOf?_cons, get?_cons, ih]
    exact if_congr Scalar.agrees_text_iff rfl rfl

theorem valueOf?_putEntry (entries : Keyed Data Scalar) (key : Scalar) (value : Data)
    (name : Scalar) : valueOf? (putEntry entries key value) name =
      if key.agrees name then some value else valueOf? entries name := by
  induction entries with
  | nil => exact valueOf?_cons (key, value) [] name
  | cons e entries ih =>
    rw [putEntry]
    by_cases he : e.1.agrees key
    · rw [if_pos he, valueOf?_cons, valueOf?_cons]
      by_cases hname : e.1.agrees name
      · rw [if_pos hname, if_pos ((Scalar.agrees_congr he).1 hname)]
      · rw [if_neg hname, if_neg hname, if_neg fun h => hname ((Scalar.agrees_congr he).2 h)]
    · rw [if_neg he, valueOf?_cons, valueOf?_cons, ih]
      by_cases hname : e.1.agrees name
      · have hkey : ¬ key.agrees name := fun h =>
          he (Scalar.agrees_trans hname (Scalar.agrees_symm h))
        rw [if_pos hname, if_pos hname, if_neg hkey]
      · rw [if_neg hname, if_neg hname]

/-- What is found is put back in its place. -/
theorem putEntry_of_valueOf? (h : valueOf? entries key = some value) :
    putEntry entries key value = entries := by
  induction entries with
  | nil => cases h
  | cons e entries ih =>
    rw [valueOf?_cons] at h
    rw [putEntry]
    by_cases he : e.1.agrees key
    · rw [if_pos he] at h ⊢
      rw [← Option.some.inj h]
    · rw [if_neg he] at h ⊢
      rw [ih h]

theorem putEntry_of_not_agrees (h : ∀ e ∈ entries, ¬ e.1.agrees key) (value : Data) :
    putEntry entries key value = entries ++ [(key, value)] := by
  induction entries with
  | nil => rfl
  | cons e entries ih =>
    obtain ⟨he, hmore⟩ := List.forall_mem_cons.1 h
    rw [putEntry, if_neg he, ih hmore, List.cons_append]

theorem keys_putEntry : keys (putEntry entries key value) =
    if entries.any fun e => e.1.agrees key then entries.keys else entries.keys ++ [key] := by
  induction entries with
  | nil => rfl
  | cons e entries ih =>
    rw [putEntry, List.any_cons]
    by_cases h : e.1.agrees key
    · simp [h, keys]
    · simp only [h, Bool.false_eq_true, if_false, Bool.false_or]
      show e.1 :: keys (putEntry entries key value) = _
      rw [ih]
      split <;> rfl

theorem once_putEntry {name : Scalar} (h : entries.Once name) :
    Once (putEntry entries key value) name := by
  rw [Once, keys_putEntry]
  split
  · exact h
  · rename_i hagrees
    rw [List.count_append, List.count_singleton]
    by_cases hkey : key = name
    · subst hkey
      have hnew : key ∉ entries.keys := by
        intro hmem
        obtain ⟨e, he, hname⟩ := List.mem_map.1 hmem
        exact hagrees (List.any_eq_true.2 ⟨e, he, hname ▸ key.agrees_self⟩)
      simp [List.count_eq_zero.2 hnew]
    · rw [if_neg (by simpa using hkey), Nat.add_zero]
      exact h

theorem mem_putEntry {e : Scalar × Data} (h : e ∈ putEntry entries key value) :
    e.2 = value ∨ e ∈ entries := by
  induction entries with
  | nil => simp_all [putEntry]
  | cons first entries ih =>
    rw [putEntry] at h
    split at h
    · rcases List.mem_cons.1 h with rfl | h
      · exact .inl rfl
      · exact .inr (List.mem_cons_of_mem _ h)
    · rcases List.mem_cons.1 h with rfl | h
      · exact .inr List.mem_cons_self
      · exact (ih h).imp_right (List.mem_cons_of_mem _)

/-! ### Keys of which no two agree -/

/-- No two keys agree. -/
def HasDistinctKeys (entries : Keyed Data Scalar) : Prop :=
  entries.keys.Pairwise fun a b => ¬ a.agrees b

/-- At most one of the keys agrees with `key`. -/
def NamesOnce (entries : Keyed Data Scalar) (key : Scalar) : Prop :=
  entries.keys.countP (·.agrees key) ≤ 1

theorem namesOnce_text_iff {name : String} :
    NamesOnce entries (.text name) ↔ entries.Once (.text name) := by
  rw [NamesOnce, Once, List.count]
  refine iff_of_eq (congrArg (· ≤ 1) (List.countP_congr fun a _ => ?_))
  rw [Scalar.agrees_text_iff, beq_iff_eq]

theorem NamesOnce.of_cons {e : Scalar × Data} (h : NamesOnce (e :: entries) key) :
    NamesOnce entries key := by
  rw [NamesOnce, keys, List.map_cons, List.countP_cons] at h
  exact Nat.le_trans (Nat.le_add_right _ _) h

/-- Behind the entry under a key that agrees there is no other. -/
theorem NamesOnce.valueOf?_of_cons {e : Scalar × Data} (h : NamesOnce (e :: entries) key)
    (he : e.1.agrees key) : valueOf? entries key = none := by
  have hcount : entries.keys.countP (·.agrees key) = 0 := by
    rw [NamesOnce, keys, List.map_cons, List.countP_cons, if_pos he] at h
    exact Nat.le_zero.1 (Nat.le_of_succ_le_succ h)
  rw [valueOf?_eq_none_iff]
  exact fun f hf => List.countP_eq_zero.1 hcount f.1 (List.mem_map_of_mem hf)

theorem hasDistinctKeys_cons_iff {e : Scalar × Data} :
    HasDistinctKeys (e :: entries) ↔
      (∀ f ∈ entries, ¬ e.1.agrees f.1) ∧ HasDistinctKeys entries := by
  rw [HasDistinctKeys, keys, List.map_cons, List.pairwise_cons, List.forall_mem_map]
  rfl

theorem hasDistinctKeys_append_iff {others : Keyed Data Scalar} :
    HasDistinctKeys (entries ++ others) ↔ HasDistinctKeys entries ∧ HasDistinctKeys others ∧
      ∀ e ∈ entries, ∀ f ∈ others, ¬ e.1.agrees f.1 := by
  simp only [HasDistinctKeys, keys, List.map_append, List.pairwise_append, List.forall_mem_map]

theorem HasDistinctKeys.namesOnce (h : HasDistinctKeys entries) (key : Scalar) :
    NamesOnce entries key := by
  induction entries with
  | nil => exact Nat.zero_le 1
  | cons e entries ih =>
    obtain ⟨he, hmore⟩ := hasDistinctKeys_cons_iff.1 h
    rw [NamesOnce, keys, List.map_cons, List.countP_cons]
    split
    · rename_i hkey
      have hcount : (keys entries).countP (·.agrees key) = 0 := by
        rw [List.countP_eq_zero, keys, List.forall_mem_map]
        exact fun f hf hfkey =>
          he f hf (Scalar.agrees_trans hkey (Scalar.agrees_symm hfkey))
      exact Nat.le_of_eq (congrArg (· + 1) hcount)
    · exact ih hmore

/-- Every entry is found under its key. -/
theorem HasDistinctKeys.valueOf?_of_mem (h : HasDistinctKeys entries) {e : Scalar × Data}
    (he : e ∈ entries) : valueOf? entries e.1 = some e.2 := by
  induction entries with
  | nil => cases he
  | cons first entries ih =>
    obtain ⟨hfirst, hmore⟩ := hasDistinctKeys_cons_iff.1 h
    rw [valueOf?_cons]
    rcases List.mem_cons.1 he with rfl | he
    · rw [if_pos e.1.agrees_self]
    · rw [if_neg (hfirst e he), ih hmore he]

theorem HasDistinctKeys.putEntry (h : HasDistinctKeys entries) (key : Scalar) (value : Data) :
    HasDistinctKeys (putEntry entries key value) := by
  rw [HasDistinctKeys, keys_putEntry]
  split
  · exact h
  · rename_i hagrees
    rw [List.pairwise_append]
    refine ⟨h, List.pairwise_singleton _ _, fun a ha b hb hab => hagrees ?_⟩
    obtain ⟨e, he, rfl⟩ := List.mem_map.1 ha
    obtain rfl := List.mem_singleton.1 hb
    exact List.any_eq_true.2 ⟨e, he, hab⟩

/-- Different texts are distinct keys. -/
theorem hasDistinctKeys_of_nodup {names : List String} (h : names.Nodup)
    (hkeys : entries.keys = names.map Scalar.text) : HasDistinctKeys entries := by
  rw [HasDistinctKeys, hkeys, List.pairwise_map]
  exact h.imp fun hne hagrees => hne (Scalar.text.inj (Scalar.agrees_text_iff.1 hagrees))

theorem keys_textKeyed (entries : Keyed Data) :
    keys (textKeyed entries) = entries.keys.map Scalar.text := by
  simp [keys, textKeyed, Function.comp_def]

theorem hasDistinctKeys_textKeyed {entries : Keyed Data} (h : entries.keys.Nodup) :
    HasDistinctKeys (textKeyed entries) :=
  hasDistinctKeys_of_nodup h (keys_textKeyed entries)

end Data

end SchemaAtlas

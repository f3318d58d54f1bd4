import Mathlib.Data.List.Forall2
import Mathlib.Data.List.Induction
import Mathlib.Data.List.Nodup

/-!
# Lists

Lists of results that may be missing (`mapM_of_eq_map`, `mapM_eq_some_iff`, `mapM_eq_ok_iff`,
`exists_mapM_eq_ok_iff`), findings that are collected item by item (`flatMap_eq_map_filter`), items
with keys of their own (`find?_eq_some_iff_of_nodup`, `flatMap_eq_of_nodup`) or found among those that
are kept (`find?_filter_of_imp`), and lists without their repetitions: one more item is kept if it is
new (`eraseDups_concat`), and the items stay in the order in which they first occur
(`pairwise_idxOf_eraseDups`).
-/

namespace SchemaAtlas

variable {α β ε : Type} {as : List α}

/-! ### Results -/

theorem mapM_of_eq_map {f f' : α → Except ε β} {change : β → β}
    (h : ∀ a ∈ as, f' a = (f a).map change) :
    as.mapM f' = (as.mapM f).map (List.map change) := by
  induction as with
  | nil => rfl
  | cons a as ih =>
    obtain ⟨ha, has⟩ := List.forall_mem_cons.1 h
    rw [List.mapM_cons, List.mapM_cons, ha, ih has]
    cases f a with
    | error fault => rfl
    | ok b =>
      cases as.mapM f with
      | error fault => rfl
      | ok bs => rfl

theorem toOption_eq_some_iff {x : Except ε α} {a : α} : x.toOption = some a ↔ x = .ok a := by
  cases x <;> simp [Except.toOption]

/-- All results are there if each of them is. -/
theorem mapM_eq_some_iff {f : α → Option β} {bs : List β} :
    as.mapM f = some bs ↔ List.Forall₂ (fun a b => f a = some b) as bs := by
  induction as generalizing bs with
  | nil => simp [eq_comm]
  | cons a as ih =>
    rw [List.mapM_cons, List.forall₂_cons_left_iff]
    simp only [Option.bind_eq_bind, Option.bind_eq_some_iff, ih, Option.pure_def,
      Option.some.injEq]
    constructor
    · rintro ⟨b, hb, bs, hbs, rfl⟩
      exact ⟨b, bs, hb, hbs, rfl⟩
    · rintro ⟨b, bs, hb, hbs, rfl⟩
      exact ⟨b, hb, bs, hbs, rfl⟩

theorem bind_eq_ok_iff {x : Except ε α} {f : α → Except ε β} {b : β} :
    x >>= f = .ok b ↔ ∃ a, x = .ok a ∧ f a = .ok b := by
  cases x <;> simp [bind, Except.bind]

theorem mapM_eq_ok_iff {f : α → Except ε β} {bs : List β} :
    as.mapM f = .ok bs ↔ List.Forall₂ (fun a b => f a = .ok b) as bs := by
  induction as generalizing bs with
  | nil => simp [pure, Except.pure, eq_comm]
  | cons a as ih =>
    rw [List.mapM_cons, List.forall₂_cons_left_iff]
    simp only [bind_eq_ok_iff, ih, pure, Except.pure, Except.ok.injEq]
    constructor
    · rintro ⟨b, hb, bs, hbs, rfl⟩
      exact ⟨b, bs, hb, hbs, rfl⟩
    · rintro ⟨b, bs, hb, hbs, rfl⟩
      exact ⟨b, hb, bs, hbs, rfl⟩

theorem exists_mapM_eq_ok {f : α → Except ε β} (h : ∀ a ∈ as, ∃ b, f a = .ok b) :
    ∃ bs, as.mapM f = .ok bs := by
  induction as with
  | nil => exact ⟨[], rfl⟩
  | cons a as ih =>
    obtain ⟨⟨b, hb⟩, has⟩ := List.forall_mem_cons.1 h
    obtain ⟨bs, hbs⟩ := ih has
    refine ⟨b :: bs, ?_⟩
    rw [List.mapM_cons, hb, hbs]
    rfl

theorem exists_of_mem_mapM {f : α → Except ε β} {bs : List β} (h : as.mapM f = .ok bs) :
    (∀ a ∈ as, ∃ b, f a = .ok b) ∧ ∀ b ∈ bs, ∃ a ∈ as, f a = .ok b := by
  induction as generalizing bs with
  | nil =>
    cases h
    simp
  | cons a as ih =>
    rw [List.mapM_cons] at h
    cases ha : f a with
    | error fault => simp [ha, bind, Except.bind] at h
    | ok b =>
      cases has : as.mapM f with
      | error fault => simp [ha, has, bind, Except.bind] at h
      | ok bs' =>
        obtain rfl : b :: bs' = bs := by
          simpa [ha, has, bind, Except.bind, pure, Except.pure] using h
        obtain ⟨hleft, hright⟩ := ih has
        constructor
        · rw [List.forall_mem_cons]
          exact ⟨⟨b, ha⟩, hleft⟩
        · rw [List.forall_mem_cons]
          refine ⟨⟨a, List.mem_cons_self, ha⟩, fun b' hb' => ?_⟩
          obtain ⟨a', ha', hb'⟩ := hright b' hb'
          exact ⟨a', List.mem_cons_of_mem a ha', hb'⟩

theorem exists_eq_ok_of_isOk {x : Except ε α} (h : x.isOk) : ∃ a, x = .ok a := by
  cases x with
  | error fault => cases h
  | ok a => exact ⟨a, rfl⟩

theorem exists_bind_pure_eq_ok_iff {x : Except ε α} {f : α → β} :
    (∃ b, (x >>= fun a => pure (f a)) = .ok b) ↔ ∃ a, x = .ok a := by
  cases x <;> simp [bind, Except.bind, pure, Except.pure]

theorem exists_mapM_eq_ok_iff {f : α → Except ε β} :
    (∃ bs, as.mapM f = .ok bs) ↔ ∀ a ∈ as, ∃ b, f a = .ok b :=
  ⟨fun ⟨_, h⟩ => (exists_of_mem_mapM h).1, exists_mapM_eq_ok⟩

/-- Steps that succeed or fail by themselves succeed one after another. -/
theorem exists_foldlM_eq_ok_iff {f : β → α → Except ε β} {accepts : α → Prop}
    (h : ∀ b a, (∃ next, f b a = .ok next) ↔ accepts a) (start : β) :
    (∃ b, as.foldlM f start = .ok b) ↔ ∀ a ∈ as, accepts a := by
  induction as generalizing start with
  | nil => exact ⟨fun _ _ => nofun, fun _ => ⟨start, rfl⟩⟩
  | cons a as ih =>
    rw [List.forall_mem_cons, ← h start a]
    simp only [List.foldlM_cons, bind_eq_ok_iff]
    constructor
    · rintro ⟨b, next, hnext, hb⟩
      exact ⟨⟨next, hnext⟩, (ih next).1 ⟨b, hb⟩⟩
    · rintro ⟨⟨next, hnext⟩, hmore⟩
      obtain ⟨b, hb⟩ := (ih next).2 hmore
      exact ⟨b, next, hnext, hb⟩

theorem forall_mem_of_forall₂ {R : α → β → Prop} {bs : List β} (h : List.Forall₂ R as bs)
    {p : β → Prop} (hp : ∀ a b, R a b → p b) : ∀ b ∈ bs, p b := by
  induction h with
  | nil => simp
  | cons hab _ ih => exact List.forall_mem_cons.2 ⟨hp _ _ hab, ih⟩

/-- Items that correspond to the same items correspond to each other. -/
theorem forall₂_of_common {γ : Type} {R : α → β → Prop} {S : α → γ → Prop} {T : β → γ → Prop}
    {bs : List β} {cs : List γ} (hbs : List.Forall₂ R as bs) (hcs : List.Forall₂ S as cs)
    (h : ∀ a b c, R a b → S a c → T b c) : List.Forall₂ T bs cs := by
  induction hbs generalizing cs with
  | nil =>
    cases hcs
    exact .nil
  | cons hab _ ih =>
    cases hcs with
    | cons hac hcs => exact .cons (h _ _ _ hab hac) (ih hcs)

/-! ### Findings -/

theorem flatMap_eq_map_filter {keep : α → Bool} {found : α → List β} {entry : α → β}
    (h : ∀ a ∈ as, found a = if keep a then [entry a] else []) :
    as.flatMap found = (as.filter keep).map entry := by
  induction as with
  | nil => rfl
  | cons a as ih =>
    obtain ⟨ha, has⟩ := List.forall_mem_cons.1 h
    rw [List.flatMap_cons, ha, ih has]
    cases hkeep : keep a <;> simp [hkeep]

theorem flatMap_perm_of_forall₂ {γ : Type} {R : α → β → Prop} {bs : List β}
    (h : List.Forall₂ R as bs) {found : α → List γ} {found' : β → List γ}
    (hfound : ∀ a b, R a b → (found a).Perm (found' b)) :
    (as.flatMap found).Perm (bs.flatMap found') := by
  induction h with
  | nil => exact .refl _
  | cons hab _ ih => exact (hfound _ _ hab).append ih

/-! ### Look-up by key -/

theorem find?_eq_some_iff_of_nodup {κ : Type} [DecidableEq κ] {key : α → κ}
    (h : (as.map key).Nodup) {k : κ} {a : α} :
    (as.find? fun a => key a == k) = some a ↔ a ∈ as ∧ key a = k := by
  constructor
  · intro hfind
    exact ⟨List.mem_of_find?_eq_some hfind, by simpa using List.find?_some hfind⟩
  · rintro ⟨ha, rfl⟩
    cases hfind : as.find? fun b => key b == key a with
    | none => exact absurd (List.find?_eq_none.1 hfind a ha) (by simp)
    | some b =>
      have hkey : key b = key a := by simpa using List.find?_some hfind
      rw [List.inj_on_of_nodup_map h (List.mem_of_find?_eq_some hfind) ha hkey]

/-- What is collected from the items of a key comes from the one item that has it. -/
theorem flatMap_eq_of_nodup {κ : Type} {key : α → κ} (h : (as.map key).Nodup) {a : α} (ha : a ∈ as)
    {collect : α → List β} (hother : ∀ b, key b ≠ key a → collect b = []) :
    as.flatMap collect = collect a := by
  obtain ⟨before, after, rfl⟩ := List.append_of_mem ha
  rw [List.map_append, List.map_cons, List.nodup_middle, List.nodup_cons, List.mem_append,
    not_or] at h
  obtain ⟨⟨hbefore, hafter⟩, -⟩ := h
  have hnil : ∀ bs : List α, key a ∉ bs.map key → bs.flatMap collect = [] := by
    intro bs hbs
    rw [List.flatMap_eq_nil_iff]
    exact fun b hb => hother b fun heq => hbs (List.mem_map.2 ⟨b, hb, heq⟩)
  rw [List.flatMap_append, List.flatMap_cons, hnil _ hbefore, hnil _ hafter, List.append_nil,
    List.nil_append]

/-- Items with keys of their own are found in any order. -/
theorem find?_perm {κ : Type} [DecidableEq κ] {key : α → κ} (h : (as.map key).Nodup) {bs : List α}
    (hperm : as.Perm bs) (k : κ) :
    (as.find? fun a => key a == k) = bs.find? fun a => key a == k := by
  have h' : (bs.map key).Nodup := (hperm.map key).nodup_iff.1 h
  refine Option.ext fun a => ?_
  rw [find?_eq_some_iff_of_nodup h, find?_eq_some_iff_of_nodup h', hperm.mem_iff]

theorem find?_filter_of_imp {keep p : α → Bool} (h : ∀ a, p a → keep a) :
    (as.filter keep).find? p = as.find? p := by
  have hkeep : (fun a => decide (keep a ∧ p a)) = p := by
    funext a
    rw [Bool.eq_iff_iff, decide_eq_true_iff]
    exact ⟨And.right, fun hp => ⟨h a hp, hp⟩⟩
  rw [List.find?_filter, hkeep]

/-- The one result that items in some order give is found in any order. -/
theorem findSome?_of_perm {bs : List α} {value : α → Option β} {o : Option β} (hperm : as.Perm bs)
    (h : bs.filterMap value = o.toList) : as.findSome? value = o := by
  have hfound := hperm.filterMap value
  rw [h] at hfound
  rw [← List.head?_filterMap]
  cases o with
  | none => rw [hfound.eq_nil]; rfl
  | some b => rw [List.perm_singleton.1 hfound]; rfl

/-- The one result that the items give. -/
theorem findSome?_eq_of_mem {value : α → Option β} {o : Option β}
    (hsound : ∀ a ∈ as, ∀ b ∈ value a, b ∈ o) (hcomplete : ∀ b ∈ o, ∃ a ∈ as, b ∈ value a) :
    as.findSome? value = o := by
  cases hfound : as.findSome? value with
  | none =>
    refine (Option.eq_none_iff_forall_not_mem.2 fun b hb => ?_).symm
    obtain ⟨a, ha, hb⟩ := hcomplete b hb
    rw [List.findSome?_eq_none_iff.1 hfound a ha] at hb
    cases hb
  | some b =>
    obtain ⟨a, ha, hb⟩ := List.exists_of_findSome?_eq_some hfound
    exact (hsound a ha b hb).symm

/-- The one list that the items give, where no item need give the empty list. -/
theorem getD_findSome? {value : α → Option (List β)} {bs : List β}
    (hsound : ∀ a ∈ as, ∀ cs ∈ value a, cs = bs)
    (hcomplete : bs ≠ [] → ∃ a ∈ as, value a = some bs) :
    (as.findSome? value).getD [] = bs := by
  cases hfound : as.findSome? value with
  | none =>
    by_contra hne
    obtain ⟨a, ha, hbs⟩ := hcomplete (Ne.symm hne)
    rw [List.findSome?_eq_none_iff.1 hfound a ha] at hbs
    cases hbs
  | some cs =>
    obtain ⟨a, ha, hcs⟩ := List.exists_of_findSome?_eq_some hfound
    exact hsound a ha cs hcs

/-! ### Repetitions -/

theorem eraseDups_concat [DecidableEq α] (as : List α) (a : α) :
    (as ++ [a]).eraseDups = if a ∈ as then as.eraseDups else as.eraseDups ++ [a] := by
  rw [List.eraseDups_append]
  by_cases h : a ∈ as <;> simp [List.removeAll, h, List.eraseDups_cons]

theorem nodup_eraseDups [DecidableEq α] (as : List α) : as.eraseDups.Nodup := by
  induction as using List.reverseRecOn with
  | nil => exact .nil
  | append_singleton as a ih =>
    rw [eraseDups_concat]
    split
    · exact ih
    · rw [← List.concat_eq_append]
      exact ih.concat (mt List.mem_eraseDups.1 ‹_›)

/-- What is left of each item is its first occurrence. -/
theorem pairwise_idxOf_eraseDups [DecidableEq α] (as : List α) :
    as.eraseDups.Pairwise fun a b => as.idxOf a < as.idxOf b := by
  induction as using List.reverseRecOn with
  | nil => exact .nil
  | append_singleton as a ih =>
    have hfront : as.eraseDups.Pairwise fun b c => (as ++ [a]).idxOf b < (as ++ [a]).idxOf c := by
      refine ih.imp_of_mem fun hb hc hlt => ?_
      rwa [List.idxOf_append_of_mem (List.mem_eraseDups.1 hb),
        List.idxOf_append_of_mem (List.mem_eraseDups.1 hc)]
    rw [eraseDups_concat]
    split
    next => exact hfront
    next hnew =>
      refine List.pairwise_append.2 ⟨hfront, List.pairwise_singleton _ _, fun b hb c hc => ?_⟩
      obtain rfl := List.mem_singleton.1 hc
      have hmem := List.mem_eraseDups.1 hb
      rw [List.idxOf_append_of_mem hmem, List.idxOf_append_of_notMem hnew]
      exact Nat.lt_add_right _ (List.idxOf_lt_length_of_mem hmem)

theorem eraseDups_of_nodup [DecidableEq α] (h : as.Nodup) : as.eraseDups = as := by
  induction as using List.reverseRecOn with
  | nil => rfl
  | append_singleton as a ih =>
    rw [← List.concat_eq_append, List.nodup_concat] at h
    rw [eraseDups_concat, if_neg h.1, ih h.2]

theorem eraseDups_perm [DecidableEq α] {bs : List α} (h : as.Perm bs) :
    as.eraseDups.Perm bs.eraseDups := by
  rw [List.perm_ext_iff_of_nodup (nodup_eraseDups as) (nodup_eraseDups bs)]
  intro a
  rw [List.mem_eraseDups, List.mem_eraseDups, h.mem_iff]

theorem eraseDups_map [DecidableEq α] [DecidableEq β] {f : α → β} (hf : f.Injective) (as : List α) :
    (as.map f).eraseDups = as.eraseDups.map f := by
  induction as using List.reverseRecOn with
  | nil => rfl
  | append_singleton as a ih =>
    rw [List.map_append, List.map_singleton, eraseDups_concat, eraseDups_concat, ih]
    simp only [List.mem_map_of_injective hf]
    split
    · rfl
    · rw [List.map_append, List.map_singleton]

end SchemaAtlas

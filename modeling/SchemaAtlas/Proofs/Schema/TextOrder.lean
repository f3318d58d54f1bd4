import SchemaAtlas.Proofs.Schema.Groups

/-!
# Items in text order

`IsStableOrder` says of a list that it is the stable sort of another one by a text of each item:
the texts ascend, and items of one text stay in the order in which they were.  There is only one
such list (`IsStableOrder.unique`), and `inTextOrder` is it (`isStableOrder_inTextOrder`).
-/

namespace SchemaAtlas

variable {α : Type} {key : α → String} {items : List α}

/-- The second list holds the items of the first in ascending order of their keys, and those of one
key as they were. -/
structure IsStableOrder (key : α → String) (items ordered : List α) : Prop where
  perm : ordered.Perm items
  ascending : ordered.Pairwise fun a b => key a ≤ key b
  stable : ∀ k, (ordered.filter fun a => key a = k) = items.filter fun a => key a = k

/-! ### There is one -/

section

variable (key)

theorem decide_key_le_trans (a b c : α) (hab : decide (key a ≤ key b))
    (hbc : decide (key b ≤ key c)) : decide (key a ≤ key c) := by
  rw [decide_eq_true_iff] at hab hbc ⊢
  exact String.le_trans hab hbc

theorem decide_key_le_total (a b : α) : decide (key a ≤ key b) || decide (key b ≤ key a) := by
  rw [Bool.or_eq_true, decide_eq_true_iff, decide_eq_true_iff]
  exact String.le_total _ _

variable (items)

theorem inTextOrder_perm : (inTextOrder key items).Perm items :=
  List.mergeSort_perm _ _

theorem pairwise_inTextOrder :
    (inTextOrder key items).Pairwise fun a b => key a ≤ key b :=
  (List.pairwise_mergeSort (decide_key_le_trans key) (decide_key_le_total key) items).imp
    of_decide_eq_true

/-- Items of one key ascend as they are, so that sorting keeps them in place. -/
theorem filter_inTextOrder (k : String) :
    ((inTextOrder key items).filter fun a => key a = k) = items.filter fun a => key a = k := by
  have hascending : (items.filter fun a => key a = k).Pairwise
      fun a b => decide (key a ≤ key b) := by
    refine List.Pairwise.imp_of_mem (R := fun _ _ => True) (fun {a b} ha hb _ => ?_)
      (List.pairwise_of_forall fun _ _ => trivial)
    have hkey : key a = key b :=
      (of_decide_eq_true (List.mem_filter.1 ha).2).trans
        (of_decide_eq_true (List.mem_filter.1 hb).2).symm
    rw [hkey]
    exact decide_eq_true (String.le_refl _)
  have hsublist : (items.filter fun a => key a = k).Sublist (inTextOrder key items) :=
    List.sublist_mergeSort (decide_key_le_trans key) (decide_key_le_total key) hascending
      List.filter_sublist
  have hfilter := hsublist.filter fun a => decide (key a = k)
  rw [List.filter_filter] at hfilter
  simp only [Bool.and_self] at hfilter
  exact (hfilter.eq_of_length ((inTextOrder_perm key items).filter _).length_eq.symm).symm

theorem isStableOrder_inTextOrder : IsStableOrder key items (inTextOrder key items) where
  perm := inTextOrder_perm key items
  ascending := pairwise_inTextOrder key items
  stable := filter_inTextOrder key items

end

/-! ### There is no other -/

/-- The first item of an ascending list is no greater than an item that the list shares. -/
theorem key_head_le {a b : α} {rest others : List α}
    (hascending : (a :: rest).Pairwise fun a b => key a ≤ key b)
    (h : ((a :: rest).filter fun c => key c = key b) = (b :: others).filter fun c => key c = key b) :
    key a ≤ key b := by
  have hb : b ∈ (a :: rest).filter fun c => key c = key b := by
    rw [h]
    simp
  obtain rfl | hrest := List.mem_cons.1 (List.mem_filter.1 hb).1
  · exact String.le_refl _
  · exact List.rel_of_pairwise_cons hascending hrest

/-- Two ascending lists that hold the same items of every key in the same order are equal. -/
theorem eq_of_filter_eq {l l' : List α} (hl : l.Pairwise fun a b => key a ≤ key b)
    (hl' : l'.Pairwise fun a b => key a ≤ key b)
    (h : ∀ k, (l.filter fun a => key a = k) = l'.filter fun a => key a = k) : l = l' := by
  induction l generalizing l' with
  | nil =>
    cases l' with
    | nil => rfl
    | cons b l' => simpa using h (key b)
  | cons a l ih =>
    cases l' with
    | nil => simpa using h (key a)
    | cons b l' =>
      have hkey : key b = key a :=
        String.le_antisymm (key_head_le hl' (h (key a)).symm) (key_head_le hl (h (key b)))
      have hcons := h (key a)
      simp only [List.filter_cons, hkey, decide_true, if_true] at hcons
      obtain ⟨rfl, htail⟩ := List.cons.inj hcons
      refine congrArg (a :: ·) (ih hl.of_cons hl'.of_cons fun k => ?_)
      by_cases hk : key a = k
      · rw [← hk]
        exact htail
      · simpa only [List.filter_cons, hk, decide_false, Bool.false_eq_true, if_false] using h k

theorem IsStableOrder.unique {ordered ordered' : List α} (h : IsStableOrder key items ordered)
    (h' : IsStableOrder key items ordered') : ordered = ordered' :=
  eq_of_filter_eq h.ascending h'.ascending fun k => (h.stable k).trans (h'.stable k).symm

theorem inTextOrder_eq_self (h : items.Pairwise fun a b => key a ≤ key b) :
    inTextOrder key items = items :=
  (isStableOrder_inTextOrder key items).unique ⟨.refl items, h, fun _ => rfl⟩

end SchemaAtlas

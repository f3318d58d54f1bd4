import Mathlib.Data.List.Basic
import SchemaAtlas.Text.Summary

/-!
# Summaries of names

A text `Summarizes` names if it spells out all of them, or the first of them with the number of the
others, or if it counts them; nothing but the count may be too wide.

Main statement: `nameSummary` gives such a text, unless it is to spell out one of two names: then it
spells out both, if they fit, and says that none is left out (`summarizes_nameSummary_iff`).
-/

namespace SchemaAtlas.Text

/-- The text tells which names there are, or how many.  At least one name is spelled out, and no
more than `shown` or two. -/
inductive Summarizes (shown width : Int) (names : List String) (s : String) : Prop
  | all (hs : s = joined ", " names) (hwidth : (s.length : Int) ≤ width)
  | first (k others : Nat) (hk : 1 ≤ k) (hshown : (k : Int) ≤ max 2 shown) (hothers : 1 ≤ others)
      (hnames : k + others = names.length)
      (hs : s = joined ", " (names.take k) ++ ", +" ++ toString others ++ " more")
      (hwidth : (s.length : Int) ≤ width)
  | count (hs : s = counted names.length "name")

/-- One of two names is to be spelled out, and there is room for both and for the number of the
others, of which there are none. -/
def LeavesNoneOut (shown width : Int) (names : List String) : Prop :=
  shown = 1 ∧ names.length = 2 ∧ ((joined ", " names ++ ", +0 more").length : Int) ≤ width

variable {shown width : Int} {names : List String}

/-- What is tried for names one after another. -/
theorem nameSummary_eq (hnames : names ≠ []) : nameSummary shown width names =
    let full := if (names.length : Int) ≤ shown then joined ", " names else firstNames 2 names
    if (full.length : Int) ≤ width then full
    else if ((firstNames 1 names).length : Int) ≤ width then firstNames 1 names
    else counted names.length "name" := by
  have hempty : names.isEmpty = false := by
    cases names <;> simp_all
  simp only [nameSummary, hempty, Bool.false_eq_true, if_false]

/-! ### The first names -/

theorem firstNames_eq {k others : Nat} (h : k + others = names.length) :
    firstNames k names = joined ", " (names.take k) ++ ", +" ++ toString others ++ " more" := by
  have hothers : (names.length : Int) - k = others := by omega
  rw [firstNames, hothers]
  rfl

theorem firstNames_length {k : Nat} (h : names.length = k) :
    firstNames k names = joined ", " names ++ ", +0 more" := by
  have hnumber : ", +" ++ (toString 0 ++ " more") = ", +0 more" := rfl
  rw [firstNames_eq (show k + 0 = names.length from h.symm),
    List.take_of_length_le (Nat.le_of_eq h), String.append_assoc, String.append_assoc, hnumber]

theorem summarizes_firstNames {k : Nat} (hk : 1 ≤ k) (hshown : (k : Int) ≤ max 2 shown)
    (hlt : k < names.length) (hwidth : ((firstNames k names).length : Int) ≤ width) :
    Summarizes shown width names (firstNames k names) :=
  .first k (names.length - k) hk hshown (Nat.sub_pos_of_lt hlt) (by omega)
    (firstNames_eq (by omega)) hwidth

/-- To say that none is left out takes more room than to say nothing of it. -/
theorem not_fits_of_not_fits {s : String} (h : ¬ (s.length : Int) ≤ width) :
    ¬ ((s ++ ", +0 more").length : Int) ≤ width := by
  rw [String.length_append]
  omega

/-! ### Two names of which none is left out -/

theorem length_joined_two (a b : String) :
    (joined ", " [a, b]).length = a.length + 2 + b.length := by
  have hseparator : ", ".length = 2 := rfl
  rw [joined_cons_cons, joined_singleton, String.length_append, String.length_append, hseparator]

theorem length_append_none (a b : String) :
    (joined ", " [a, b] ++ ", +0 more").length = a.length + b.length + 11 := by
  have hnone : ", +0 more".length = 9 := rfl
  rw [String.length_append, length_joined_two, hnone]
  omega

/-- The text that leaves none out is longer than what two names may be summarized by. -/
theorem not_summarizes_of_length_eq_two (h : names.length = 2) :
    ¬ Summarizes shown width names (joined ", " names ++ ", +0 more") := by
  obtain ⟨a, b, rfl⟩ := List.length_eq_two.1 h
  intro hsummary
  have hlength := length_append_none a b
  cases hsummary with
  | all hs =>
    rw [hs, length_joined_two] at hlength
    omega
  | first k others hk _ hothers hnames hs =>
    obtain ⟨rfl, rfl⟩ : k = 1 ∧ others = 1 := by
      rw [h] at hnames
      omega
    have hnumber : (", +" ++ (toString 1 ++ " more")).length = 9 := rfl
    rw [hs, String.append_assoc, String.append_assoc, String.length_append, hnumber] at hlength
    have hfirst : (joined ", " ([a, b].take 1)).length = a.length := rfl
    omega
  | count hs =>
    have hcount : (counted (2 : Nat) "name").length = 7 := by decide
    rw [hs, h, hcount] at hlength
    omega

theorem nameSummary_of_leavesNoneOut (h : LeavesNoneOut shown width names) :
    nameSummary shown width names = joined ", " names ++ ", +0 more" := by
  obtain ⟨rfl, hlength, hwidth⟩ := h
  have hnames : names ≠ [] := List.length_pos_iff.1 (by omega)
  have hmany : ¬ (names.length : Int) ≤ 1 := by omega
  simp only [nameSummary_eq hnames, if_neg hmany, firstNames_length hlength, if_pos hwidth]

/-! ### Any names -/

theorem summarizes_nameSummary_of_length_eq_one (hlength : names.length = 1) (hshown : 1 ≤ shown) :
    Summarizes shown width names (nameSummary shown width names) := by
  have hnames : names ≠ [] := List.length_pos_iff.1 (by omega)
  have hfew : (names.length : Int) ≤ shown := by omega
  simp only [nameSummary_eq hnames, if_pos hfew, firstNames_length hlength]
  split_ifs with hall hnone
  · exact .all rfl hall
  · exact absurd hnone (not_fits_of_not_fits hall)
  · exact .count rfl

theorem summarizes_nameSummary_of_one_lt_length (hlength : 1 < names.length) (hshown : 1 ≤ shown)
    (hsome : ¬ LeavesNoneOut shown width names) :
    Summarizes shown width names (nameSummary shown width names) := by
  have hnames : names ≠ [] := List.length_pos_iff.1 (by omega)
  have hfirst : ((firstNames 1 names).length : Int) ≤ width →
      Summarizes shown width names (firstNames 1 names) :=
    summarizes_firstNames (Nat.le_refl 1) (by omega) hlength
  by_cases hfew : (names.length : Int) ≤ shown
  · simp only [nameSummary_eq hnames, if_pos hfew]
    split_ifs with hall hone
    · exact .all rfl hall
    · exact hfirst hone
    · exact .count rfl
  · simp only [nameSummary_eq hnames, if_neg hfew]
    split_ifs with htwo hone
    · -- If there are only two, one of them was to be shown, and none is left out.
      have hthree : names.length ≠ 2 := fun hlength =>
        hsome ⟨by omega, hlength, by rwa [firstNames_length hlength] at htwo⟩
      exact summarizes_firstNames (by omega) (by omega) (by omega) htwo
    · exact hfirst hone
    · exact .count rfl

/-- Names are summarized unless both of two are spelled out and none is left out. -/
theorem summarizes_nameSummary_iff (hnames : names ≠ []) (hshown : 1 ≤ shown) :
    Summarizes shown width names (nameSummary shown width names) ↔
      ¬ LeavesNoneOut shown width names := by
  constructor
  · intro hsummary hnone
    rw [nameSummary_of_leavesNoneOut hnone] at hsummary
    exact not_summarizes_of_length_eq_two hnone.2.1 hsummary
  · intro hsome
    have hpos := List.length_pos_iff.2 hnames
    rcases Nat.lt_or_eq_of_le hpos with hlength | hlength
    · exact summarizes_nameSummary_of_one_lt_length hlength hshown hsome
    · exact summarizes_nameSummary_of_length_eq_one hlength.symm hshown

/-- Of three names one is to be shown, and two fit. -/
theorem summarizes_nameSummary_three :
    ["User", "Post", "Tag"] ≠ [] ∧ (1 : Int) ≤ 1 ∧
      ¬ LeavesNoneOut 1 20 ["User", "Post", "Tag"] ∧
      nameSummary 1 20 ["User", "Post", "Tag"] = "User, Post, +1 more" ∧
      Summarizes 1 20 ["User", "Post", "Tag"] (nameSummary 1 20 ["User", "Post", "Tag"]) := by
  have hsome : ¬ LeavesNoneOut 1 20 ["User", "Post", "Tag"] := by
    rintro ⟨-, hlength, -⟩
    simp at hlength
  exact ⟨List.cons_ne_nil _ _, Int.le_refl 1, hsome, by decide,
    (summarizes_nameSummary_iff (List.cons_ne_nil _ _) (Int.le_refl 1)).2 hsome⟩

/-- Of two names one is to be shown, and both are, with none left out. -/
theorem not_summarizes_nameSummary_two :
    nameSummary 1 60 ["User", "Post"] = "User, Post, +0 more" ∧
      ¬ Summarizes 1 60 ["User", "Post"] (nameSummary 1 60 ["User", "Post"]) := by
  have hnone : LeavesNoneOut 1 60 ["User", "Post"] := ⟨rfl, rfl, by decide⟩
  rw [nameSummary_of_leavesNoneOut hnone]
  exact ⟨rfl, not_summarizes_of_length_eq_two rfl⟩

end SchemaAtlas.Text

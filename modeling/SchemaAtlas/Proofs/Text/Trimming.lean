import Mathlib.Data.List.DropRight
import SchemaAtlas.Text.Blank

/-!
# Trimming

`trim` removes the blanks at both ends, in either order (`trimLeft_trimRight`), and a text whose
first and last characters are not blank stays as it is (`trim_eq_self`); so trimming twice is
trimming once (`trim_trim`).  A character that is not blank keeps the two ends apart
(`trim_append_cons`), and a text that is `Unpadded` is what trimming leaves of it with blanks around
it (`Unpadded.trim_padded`).
-/

namespace SchemaAtlas.Text

theorem trimLeft_trimLeft (cs : List Char) : trimLeft (trimLeft cs) = trimLeft cs :=
  List.dropWhile_idempotent isBlank cs

theorem trimRight_trimRight (cs : List Char) : trimRight (trimRight cs) = trimRight cs :=
  List.rdropWhile_idempotent isBlank cs

theorem trimLeft_of_all_isBlank {cs : List Char} (h : ∀ c ∈ cs, isBlank c) : trimLeft cs = [] :=
  List.dropWhile_eq_nil_iff.2 h

theorem trimRight_of_all_isBlank {cs : List Char} (h : ∀ c ∈ cs, isBlank c) : trimRight cs = [] :=
  List.rdropWhile_eq_nil_iff.2 h

/-- Trimming at the right end keeps the first character unless the whole text is blank. -/
theorem trimRight_cons {c : Char} {cs : List Char} (h : ¬ ∀ d ∈ c :: cs, isBlank d) :
    trimRight (c :: cs) = c :: trimRight cs := by
  have hdrop : (cs.reverse ++ [c]).dropWhile isBlank = cs.reverse.dropWhile isBlank ++ [c] := by
    rw [List.dropWhile_append]
    split
    · rename_i hempty
      have hcs : ∀ d ∈ cs, isBlank d := by
        simpa using List.dropWhile_eq_nil_iff.1 (List.isEmpty_iff.1 hempty)
      have hc : ¬ isBlank c := fun hc => h (List.forall_mem_cons.2 ⟨hc, hcs⟩)
      rw [List.isEmpty_iff.1 hempty, List.dropWhile_cons_of_neg hc, List.nil_append]
    · rfl
  rw [trimRight, List.reverse_cons, hdrop, List.reverse_append]
  rfl

/-- The two ends of a text are trimmed independently of each other. -/
theorem trimLeft_trimRight (cs : List Char) : trimLeft (trimRight cs) = trimRight (trimLeft cs) := by
  induction cs with
  | nil => rfl
  | cons c cs ih =>
    by_cases hall : ∀ d ∈ c :: cs, isBlank d
    · rw [trimRight_of_all_isBlank hall, trimLeft_of_all_isBlank hall]
      rfl
    · rw [trimRight_cons hall]
      by_cases hc : isBlank c
      · have hl : ∀ ds, trimLeft (c :: ds) = trimLeft ds := fun ds => List.dropWhile_cons_of_pos hc
        rw [hl, hl, ih]
      · have hl : ∀ ds, trimLeft (c :: ds) = c :: ds := fun ds => List.dropWhile_cons_of_neg hc
        rw [hl, hl, trimRight_cons hall]

@[simp] theorem trim_trim (cs : List Char) : trim (trim cs) = trim cs := by
  unfold trim
  rw [trimLeft_trimRight, trimRight_trimRight, trimLeft_trimLeft]

theorem trim_eq_nil_iff {cs : List Char} : trim cs = [] ↔ ∀ c ∈ cs, isBlank c := by
  constructor
  · intro h
    have hleft : ∀ c ∈ trimLeft cs, isBlank c := List.rdropWhile_eq_nil_iff.1 h
    have hnil : trimLeft cs = [] := by
      rw [← trimLeft_trimLeft, trimLeft_of_all_isBlank hleft]
    exact List.dropWhile_eq_nil_iff.1 hnil
  · intro h
    rw [trim, trimLeft_of_all_isBlank h]
    rfl

theorem trim_eq_self {cs : List Char} (hfirst : ∀ c ∈ cs.head?, ¬ isBlank c)
    (hlast : ∀ c ∈ cs.getLast?, ¬ isBlank c) : trim cs = cs := by
  have hl : trimLeft cs = cs := by
    cases cs with
    | nil => rfl
    | cons c cs => exact List.dropWhile_cons_of_neg (hfirst c rfl)
  have hr : trimRight cs = cs := by
    refine List.rdropWhile_eq_self_iff.2 fun hne => ?_
    exact hlast _ (List.getLast?_eq_some_getLast hne)
  rw [trim, hl, hr]

/-! ### Trimming a text in parts -/

theorem trimLeft_append_of_all_isBlank {cs : List Char} (h : ∀ c ∈ cs, isBlank c)
    (rest : List Char) : trimLeft (cs ++ rest) = trimLeft rest :=
  List.dropWhile_append_of_pos h

theorem trimLeft_append_of_not_all_isBlank {cs : List Char} (h : ¬ ∀ c ∈ cs, isBlank c)
    (rest : List Char) : trimLeft (cs ++ rest) = trimLeft cs ++ rest := by
  have hne : (cs.dropWhile isBlank).isEmpty = false := by
    rw [Bool.eq_false_iff, Ne, List.isEmpty_iff, List.dropWhile_eq_nil_iff]
    exact h
  simp only [trimLeft, List.dropWhile_append, hne, Bool.false_eq_true, if_false]

theorem trimLeft_append_cons {c : Char} (hc : ¬ isBlank c) (front back : List Char) :
    trimLeft (front ++ c :: back) = trimLeft front ++ c :: back := by
  by_cases h : ∀ d ∈ front, isBlank d
  · rw [trimLeft_append_of_all_isBlank h, trimLeft_of_all_isBlank h]
    exact List.dropWhile_cons_of_neg hc
  · exact trimLeft_append_of_not_all_isBlank h (c :: back)

theorem trimRight_eq_reverse (cs : List Char) : trimRight cs = (trimLeft cs.reverse).reverse := rfl

theorem trimRight_append_of_all_isBlank {rest : List Char} (h : ∀ c ∈ rest, isBlank c)
    (cs : List Char) : trimRight (cs ++ rest) = trimRight cs := by
  have hrest : ∀ c ∈ rest.reverse, isBlank c := fun c hc => h c (List.mem_reverse.1 hc)
  rw [trimRight_eq_reverse, List.reverse_append, trimLeft_append_of_all_isBlank hrest]
  rfl

theorem trimRight_append_cons {c : Char} (hc : ¬ isBlank c) (front back : List Char) :
    trimRight (front ++ c :: back) = front ++ c :: trimRight back := by
  have hreverse : (front ++ c :: back).reverse = back.reverse ++ c :: front.reverse := by simp
  rw [trimRight_eq_reverse, hreverse, trimLeft_append_cons hc, trimRight_eq_reverse]
  simp

theorem trim_append_cons {c : Char} (hc : ¬ isBlank c) (front back : List Char) :
    trim (front ++ c :: back) = trimLeft front ++ c :: trimRight back := by
  rw [trim, trimLeft_append_cons hc, trimRight_append_cons hc]

/-- The text starts and ends with characters that are not blank. -/
structure Unpadded (cs : List Char) : Prop where
  first : ∃ c ∈ cs.head?, ¬ isBlank c
  last : ∃ c ∈ cs.getLast?, ¬ isBlank c

instance (cs : List Char) : Decidable (Unpadded cs) :=
  decidable_of_iff (cs.head?.any (!isBlank ·) ∧ cs.getLast?.any (!isBlank ·)) <| by
    rw [Option.any_eq_true, Option.any_eq_true]
    simp only [Bool.not_eq_true', ← Bool.not_eq_true]
    exact ⟨fun h => ⟨h.1, h.2⟩, fun h => ⟨h.first, h.last⟩⟩

namespace Unpadded

theorem append {front back : List Char} (hfront : Unpadded front) (hback : Unpadded back)
    (mid : List Char) : Unpadded (front ++ (mid ++ back)) := by
  obtain ⟨c, hc, hcblank⟩ := hfront.first
  obtain ⟨d, hd, hdblank⟩ := hback.last
  refine ⟨⟨c, List.mem_head?_append_of_mem_head? hc, hcblank⟩, d, ?_, hdblank⟩
  exact List.mem_getLast?_append_of_mem_getLast? (List.mem_getLast?_append_of_mem_getLast? hd)

theorem cons_concat {c d : Char} (hc : ¬ isBlank c) (hd : ¬ isBlank d) (mid : List Char) :
    Unpadded (c :: (mid ++ [d])) :=
  ⟨⟨c, rfl, hc⟩, d, List.getLast?_concat (l := c :: mid), hd⟩

theorem of_forall {cs : List Char} (hne : cs ≠ []) (h : ∀ c ∈ cs, ¬ isBlank c) : Unpadded cs :=
  ⟨⟨cs.head hne, List.head_mem_head? hne, h _ (List.head_mem hne)⟩,
    cs.getLast hne, List.getLast?_eq_some_getLast hne, h _ (List.getLast_mem hne)⟩

theorem trimLeft_append {cs : List Char} (h : Unpadded cs) (rest : List Char) :
    trimLeft (cs ++ rest) = cs ++ rest := by
  obtain ⟨c, hc, hblank⟩ := h.first
  obtain ⟨cs, rfl⟩ := List.head?_eq_some_iff.1 hc
  exact List.dropWhile_cons_of_neg hblank

theorem trimRight_append {cs : List Char} (h : Unpadded cs) (front : List Char) :
    trimRight (front ++ cs) = front ++ cs := by
  obtain ⟨c, hc, hblank⟩ := h.last
  obtain ⟨cs, rfl⟩ := List.getLast?_eq_some_iff.1 hc
  rw [← List.append_assoc, trimRight_append_cons hblank]
  rfl

theorem trim_padded {cs blanks blanks' : List Char} (h : Unpadded cs)
    (hblanks : ∀ c ∈ blanks, isBlank c) (hblanks' : ∀ c ∈ blanks', isBlank c) :
    trim (blanks ++ (cs ++ blanks')) = cs := by
  have hright : trimRight (cs ++ blanks') = cs := by
    rw [trimRight_append_of_all_isBlank hblanks']
    exact h.trimRight_append []
  rw [trim, trimLeft_append_of_all_isBlank hblanks, h.trimLeft_append, hright]

theorem trim_eq {cs : List Char} (h : Unpadded cs) : trim cs = cs := by
  have htrim := h.trim_padded (List.forall_mem_nil _) (List.forall_mem_nil _)
  simpa using htrim

end Unpadded

/-- A blank ends the first word. -/
theorem firstWord?_append_cons {b : Char} (hb : isBlank b) {cs : List Char}
    (h : ¬ ∀ c ∈ cs, isBlank c) (rest : List Char) :
    firstWord? (cs ++ b :: rest) = firstWord? cs := by
  have hne : trimLeft cs ≠ [] := fun hnil => h (List.dropWhile_eq_nil_iff.1 hnil)
  obtain ⟨c, word, hword⟩ := List.exists_cons_of_ne_nil hne
  have htake : (word ++ b :: rest).takeWhile (fun d => !isBlank d) =
      word.takeWhile fun d => !isBlank d := by
    rw [List.takeWhile_append]
    split_ifs with hlength
    · simp [hb, (List.takeWhile_prefix _).eq_of_length hlength]
    · rfl
  simp only [firstWord?, trimLeft_append_of_not_all_isBlank h, hword, List.cons_append, htake]

/-- Only blanks are missing at the right end. -/
theorem exists_eq_trimRight_append (cs : List Char) :
    ∃ blanks, cs = trimRight cs ++ blanks ∧ ∀ c ∈ blanks, isBlank c :=
  ⟨cs.rtakeWhile isBlank, List.rdropWhile_append_rtakeWhile.symm,
    fun _ => List.mem_rtakeWhile_imp⟩

end SchemaAtlas.Text

import Mathlib.Data.List.TakeDrop
import SchemaAtlas.Proofs.Text.Trimming
import SchemaAtlas.Text.Search
import SchemaAtlas.Text.Word

/-!
# Words at the start of a text

No character of a word is blank (`not_isBlank_of_isWord`), so a word ends in front of a blank
(`spanWord_append_cons`) and trimming leaves its beginning alone (`trimLeft_append_of_isWord`);
`after?` takes off a fixed word that was put in front of a text (`after?_append`).  What follows a
text changes none of the words in it, if its first character belongs to no such word
(`after?_append_of_head?`, `spanWord_append_of_head?`).
-/

namespace SchemaAtlas.Text

/-- The code points of the blank characters. -/
def blankPoints : List Nat :=
  [9, 10, 11, 12, 13, 28, 29, 30, 31, 32, 0x85, 0xA0, 0x1680, 0x2000, 0x2001, 0x2002, 0x2003, 0x2004,
    0x2005, 0x2006, 0x2007, 0x2008, 0x2009, 0x200A, 0x2028, 0x2029, 0x202F, 0x205F, 0x3000]

theorem toNat_mem_blankPoints {c : Char} (h : isBlank c) : c.toNat ∈ blankPoints := by
  simp only [isBlank, Bool.or_eq_true, Bool.and_eq_true, decide_eq_true_eq, beq_iff_eq] at h
  simp only [blankPoints, List.mem_cons]
  omega

theorem not_isBlank_of_isWord {c : Char} (h : isWord c) : ¬ isBlank c := by
  intro hblank
  have hall : ∀ n ∈ blankPoints, isWord (Char.ofNat n) = false := by decide +kernel
  have hpoint := hall c.toNat (toNat_mem_blankPoints hblank)
  rw [Char.ofNat_toNat, h] at hpoint
  cases hpoint

theorem trimLeft_append_of_isWord {word : List Char} (hne : word ≠ [])
    (hword : ∀ c ∈ word, isWord c) (rest : List Char) :
    trimLeft (word ++ rest) = word ++ rest := by
  cases word with
  | nil => exact absurd rfl hne
  | cons c word =>
    have hc := not_isBlank_of_isWord (hword c List.mem_cons_self)
    exact List.dropWhile_cons_of_neg hc

theorem spanWord_append_cons {word : List Char} (hword : ∀ c ∈ word, isWord c) {d : Char}
    (hd : ¬ isWord d) (rest : List Char) : spanWord (word ++ d :: rest) = (word, d :: rest) := by
  rw [spanWord, List.span_eq_takeWhile_dropWhile, List.takeWhile_append_of_pos hword,
    List.takeWhile_cons_of_neg hd, List.append_nil, List.dropWhile_append_of_pos hword,
    List.dropWhile_cons_of_neg hd]

theorem spanWord_of_isWord {word : List Char} (hword : ∀ c ∈ word, isWord c) :
    spanWord word = (word, []) := by
  rw [spanWord, List.span_eq_takeWhile_dropWhile, List.takeWhile_eq_self_iff.2 hword,
    List.dropWhile_eq_nil_iff.2 hword]

theorem after?_append (word : String) (rest : List Char) :
    after? word (word.toList ++ rest) = some rest := by
  unfold after?
  induction word.toList with
  | nil => rfl
  | cons c cs ih =>
    show (if c == c then List.isPrefixOf? cs (cs ++ rest) else none) = some rest
    rw [if_pos (beq_self_eq_true c), ih]

theorem startsWith_iff {word : String} {cs : List Char} :
    startsWith word cs ↔ word.toList <+: cs :=
  List.isPrefixOf_iff_prefix

/-- No text starts with two words of which neither starts with the other one. -/
theorem startsWith_eq_false {word : String} (other : String) {cs : List Char}
    (hword : ¬ word.toList <+: other.toList) (hother : ¬ other.toList <+: word.toList)
    (h : startsWith word cs) : startsWith other cs = false := by
  rw [Bool.eq_false_iff]
  intro hstarts
  obtain hprefix | hprefix :=
    List.prefix_or_prefix_of_prefix (startsWith_iff.1 h) (startsWith_iff.1 hstarts)
  · exact hword hprefix
  · exact hother hprefix

/-! ### Text behind a word -/

theorem forall_mem_head?_cons {p : Char → Prop} {c : Char} (hc : p c) (rest : List Char) :
    ∀ d ∈ (c :: rest).head?, p d :=
  fun _ hd => Option.some.inj hd ▸ hc

theorem isPrefixOf?_append_of_head? {word cs rest : List Char} (h : ∀ c ∈ rest.head?, c ∉ word) :
    word.isPrefixOf? (cs ++ rest) = (word.isPrefixOf? cs).map (· ++ rest) := by
  induction word generalizing cs with
  | nil => rfl
  | cons w word ih =>
    cases cs with
    | nil =>
      cases rest with
      | nil => rfl
      | cons c rest =>
        have hne : w ≠ c := fun heq => h c rfl (heq ▸ List.mem_cons_self)
        simp [List.isPrefixOf?, hne]
    | cons c cs =>
      simp only [List.cons_append, List.isPrefixOf?]
      split_ifs
      · exact ih fun d hd hmem => h d hd (List.mem_cons_of_mem w hmem)
      · rfl

theorem after?_append_of_head? {word : String} {rest : List Char}
    (h : ∀ c ∈ rest.head?, c ∉ word.toList) (cs : List Char) :
    after? word (cs ++ rest) = (after? word cs).map (· ++ rest) :=
  isPrefixOf?_append_of_head? h

theorem after?_append_cons {word : String} {c : Char} (hc : c ∉ word.toList)
    (cs rest : List Char) : after? word (cs ++ c :: rest) = (after? word cs).map (· ++ c :: rest) :=
  after?_append_of_head? (forall_mem_head?_cons hc rest) cs

theorem startsWith_eq_isSome (word : String) (cs : List Char) :
    startsWith word cs = (after? word cs).isSome :=
  (List.isSome_isPrefixOf?_eq_isPrefixOf _ _).symm

/-- A word is not found at the start of another one, if neither starts with the other. -/
theorem after?_append_of_not_isPrefix {word other : String} (hword : ¬ word.toList <+: other.toList)
    (hother : ¬ other.toList <+: word.toList) (rest : List Char) :
    after? word (other.toList ++ rest) = none := by
  have hstarts : startsWith other (other.toList ++ rest) :=
    startsWith_iff.2 (List.prefix_append _ _)
  rw [← Option.not_isSome_iff_eq_none, ← startsWith_eq_isSome,
    startsWith_eq_false word hother hword hstarts]
  exact Bool.false_ne_true

theorem startsWith_append_of_head? {word : String} {rest : List Char}
    (h : ∀ c ∈ rest.head?, c ∉ word.toList) (cs : List Char) :
    startsWith word (cs ++ rest) = startsWith word cs := by
  rw [startsWith_eq_isSome, after?_append_of_head? h, Option.isSome_map, startsWith_eq_isSome]

theorem spanWord_append_of_head? {rest : List Char} (h : ∀ c ∈ rest.head?, ¬ isWord c)
    (cs : List Char) : spanWord (cs ++ rest) = ((spanWord cs).1, (spanWord cs).2 ++ rest) := by
  simp only [spanWord, List.span_eq_takeWhile_dropWhile]
  induction cs with
  | nil =>
    cases rest with
    | nil => rfl
    | cons c rest => simp [h c rfl]
  | cons c cs ih =>
    by_cases hc : isWord c
    · simpa [hc] using ih
    · simp [hc]

theorem spanWord_append_cons_of_not_isWord {c : Char} (hc : ¬ isWord c) (cs rest : List Char) :
    spanWord (cs ++ c :: rest) = ((spanWord cs).1, (spanWord cs).2 ++ c :: rest) :=
  spanWord_append_of_head? (forall_mem_head?_cons hc rest) cs

theorem spanWord_fst_eq_nil {cs : List Char} (h : ∀ c ∈ cs.head?, ¬ isWord c) :
    (spanWord cs).1 = [] :=
  congrArg Prod.fst (spanWord_append_of_head? h [])

end SchemaAtlas.Text

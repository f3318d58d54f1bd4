import SchemaAtlas.Proofs.Schema.ClosedLiterals
import SchemaAtlas.Proofs.Text.Trimming

/-!
# Where a line is cut

A comment begins at two slashes outside of string literals (`BeginsComment`), and the comment of a line
is the first that begins (`HasComment`).  Two slashes are that first place if the text in front of them
ends in the code, and else they are not (`hasComment_of_code`, `HasComment.stateAfter_front`).  No
comment begins in a line that does not end in one (`stateAfter_ne_comment_iff_forall`).

Main statement: a line is cut where its comment begins and nowhere else (`CutsComment`); its code is
not cut again, and does not depend on what the comment says (`codeAndComment_cuts`).
-/

namespace SchemaAtlas

open Text LineState

/-- Two slashes outside of string literals stand in the line between `front` and `text`. -/
structure BeginsComment (line front text : List Char) : Prop where
  line_eq : line = front ++ '/' :: '/' :: text
  outside : LiteralsClosed front

/-- The first comment that begins in the line is `text`. -/
structure HasComment (line front text : List Char) : Prop extends BeginsComment line front text where
  first : ∀ front' text', BeginsComment line front' text' → front.length ≤ front'.length

/-- The code and the comment of a line. -/
inductive CutsComment (line : List Char) : List Char × Option String → Prop
  | nowhere (h : ∀ front text, ¬ BeginsComment line front text) :
      CutsComment line (trimRight line, none)
  | comment {front text : List Char} (h : HasComment line front text) :
      CutsComment line
        (trimRight front, if trim text = [] then none else some (.ofList (trim text)))

/-! ### Where a comment begins -/

theorem BeginsComment.not_inLiteral {line front text : List Char} (h : BeginsComment line front text) :
    ¬ (stateAfter front).inLiteral :=
  h.outside.not_inLiteral_after Bool.false_ne_true

/-- Two slashes outside of string literals lead into a comment, if they do not stand in one. -/
theorem BeginsComment.stateAfter_eq {line front text : List Char} (h : BeginsComment line front text) :
    stateAfter line = .comment := by
  rw [h.line_eq, stateAfter, after_append, ← stateAfter]
  by_cases hcomment : stateAfter front = .comment
  · rw [hcomment, after_comment]
  · exact after_slashes (inCode_of_not_inLiteral h.not_inLiteral hcomment) text

theorem beginsComment_of_code {front : List Char} (h : stateAfter front = .code) (text : List Char) :
    BeginsComment (front ++ '/' :: '/' :: text) front text :=
  ⟨rfl, literalsClosed_of_inCode (by rw [h]; rfl)⟩

theorem stateAfter_ne_comment_iff_forall {line : List Char} :
    stateAfter line ≠ .comment ↔ ∀ front text, ¬ BeginsComment line front text := by
  constructor
  · intro h front text hbegins
    exact h hbegins.stateAfter_eq
  · intro h hcomment
    obtain ⟨front, text, rfl, hfront⟩ := after_eq_comment ⟨by simp, by simp⟩ hcomment
    exact h front text (beginsComment_of_code hfront text)

theorem HasComment.stateAfter_ne_code {line front text front' text' : List Char}
    (h : HasComment line front text) (hline : line = front' ++ '/' :: '/' :: text')
    (hlength : front'.length < front.length) : stateAfter front' ≠ .code := by
  intro hcode
  have hle := h.first front' text' (hline ▸ beginsComment_of_code hcode text')
  omega

/-- The text in front of the first comment ends in the code. -/
theorem HasComment.stateAfter_front {line front text : List Char} (h : HasComment line front text) :
    stateAfter front = .code := by
  have hline := h.line_eq
  cases hstate : stateAfter front with
  | code => rfl
  | slash =>
    -- the comment would begin one character earlier
    obtain ⟨front', rfl, hcode⟩ := after_eq_slash (s := .code) (by simp) hstate
    rw [List.append_assoc] at hline
    exact absurd hcode (h.stateAfter_ne_code hline (by simp))
  | comment =>
    obtain ⟨front', text', rfl, hcode⟩ := after_eq_comment (s := .code) ⟨by simp, by simp⟩ hstate
    rw [List.append_assoc] at hline
    exact absurd hcode (h.stateAfter_ne_code hline (by simp))
  | quoted | escaped => exact absurd (by rw [hstate]; rfl) h.not_inLiteral

theorem next_slash_of_not_inLiteral {s : LineState} (h : ¬ s.inLiteral) :
    s.next '/' = .slash ∨ s.next '/' = .comment := by
  cases s with
  | code => exact .inl rfl
  | slash | comment => exact .inr rfl
  | quoted | escaped => exact absurd rfl h

/-- The comment behind a text that ends in the code is the first one. -/
theorem hasComment_of_code {front : List Char} (h : stateAfter front = .code) (text : List Char) :
    HasComment (front ++ '/' :: '/' :: text) front text := by
  refine ⟨beginsComment_of_code h text, fun front' text' hbegins => ?_⟩
  by_contra hlt
  have hline := hbegins.line_eq
  have hcons : front' ++ '/' :: '/' :: text' = front' ++ ['/'] ++ '/' :: text' := by simp
  obtain ⟨more, rfl⟩ : front' ++ ['/'] <+: front := by
    apply List.prefix_of_prefix_length_le _ (List.prefix_append front ('/' :: '/' :: text))
    · rw [List.length_append, List.length_singleton]
      omega
    · rw [hline, hcons]
      exact List.prefix_append _ _
  rw [stateAfter, after_append, after_append, ← stateAfter, after_cons, after_nil] at h
  rcases next_slash_of_not_inLiteral hbegins.not_inLiteral with hslash | hcomment
  · -- the second slash of the earlier comment is behind the first one, or the end of `front`
    rw [hslash] at h
    cases more with
    | nil => cases h
    | cons c more =>
      obtain rfl : c = '/' := by
        simp at hline
        exact hline.1
      rw [after_cons, show LineState.slash.next '/' = .comment from rfl, after_comment] at h
      cases h
  · rw [hcomment, after_comment] at h
    cases h

/-! ### The code and the comment of a line -/

namespace Attribute

/-- Blanks at the end do not hide the beginning of a comment. -/
theorem codeAndComment_trimRight {cs : List Char} (h : stateAfter cs ≠ .comment) :
    codeAndComment (trimRight cs) = (trimRight cs, none) := by
  obtain ⟨blanks, hcs, -⟩ := exists_eq_trimRight_append cs
  have hne : stateAfter (trimRight cs) ≠ .comment := by
    intro hcomment
    apply h
    rw [hcs, stateAfter, after_append, ← stateAfter, hcomment, after_comment]
  rw [codeAndComment_of_ne_comment hne, trimRight_trimRight]

theorem cutsComment_codeAndComment (line : List Char) : CutsComment line (codeAndComment line) := by
  by_cases hcomment : stateAfter line = .comment
  · obtain ⟨front, text, rfl, hfront⟩ := after_eq_comment (s := .code) ⟨by simp, by simp⟩ hcomment
    rw [codeAndComment_append_slashes hfront]
    exact .comment (hasComment_of_code hfront text)
  · rw [codeAndComment_of_ne_comment hcomment]
    exact .nowhere (stateAfter_ne_comment_iff_forall.1 hcomment)

/-- Code that has been cut off is not cut again. -/
theorem codeAndComment_of_cutsComment {line : List Char} {cut : List Char × Option String}
    (h : CutsComment line cut) : codeAndComment cut.1 = (cut.1, none) := by
  cases h with
  | nowhere h => exact codeAndComment_trimRight (stateAfter_ne_comment_iff_forall.2 h)
  | comment h =>
    apply codeAndComment_trimRight
    rw [h.stateAfter_front]
    simp

end Attribute

/-- A line is cut at its first comment or not at all; the code is not cut again; and another text
behind the slashes leaves the code as it is. -/
theorem codeAndComment_cuts (line : List Char) :
    CutsComment line (Attribute.codeAndComment line) ∧
      Attribute.codeAndComment (Attribute.codeAndComment line).1 =
        ((Attribute.codeAndComment line).1, none) ∧
      ∀ front text text', HasComment line front text →
        (Attribute.codeAndComment (front ++ '/' :: '/' :: text')).1 =
          (Attribute.codeAndComment line).1 := by
  have hcuts := Attribute.cutsComment_codeAndComment line
  refine ⟨hcuts, Attribute.codeAndComment_of_cutsComment hcuts, ?_⟩
  intro front text text' h
  have hfront := h.stateAfter_front
  rw [h.line_eq, Attribute.codeAndComment_append_slashes hfront,
    Attribute.codeAndComment_append_slashes hfront]

/-- A line with slashes in a string literal, and with three slashes in front of its comment. -/
theorem codeAndComment_cuts_behind_literal :
    let front := "url String @default(\"http://a\\\"//b\") ".toList
    let line := front ++ '/' :: '/' :: "/ \"home\" // page ".toList
    HasComment line front "/ \"home\" // page ".toList ∧
      Attribute.codeAndComment line =
        ("url String @default(\"http://a\\\"//b\")".toList, some "/ \"home\" // page") ∧
      (Attribute.codeAndComment (front ++ '/' :: '/' :: "none".toList)).1 =
        "url String @default(\"http://a\\\"//b\")".toList := by
  intro front line
  have hcomment : HasComment line front "/ \"home\" // page ".toList :=
    hasComment_of_code (by decide +kernel) _
  have hcut : Attribute.codeAndComment line =
      ("url String @default(\"http://a\\\"//b\")".toList, some "/ \"home\" // page") := by
    decide +kernel
  obtain ⟨-, -, hchange⟩ := codeAndComment_cuts line
  refine ⟨hcomment, hcut, ?_⟩
  rw [hchange front _ "none".toList hcomment, hcut]

end SchemaAtlas

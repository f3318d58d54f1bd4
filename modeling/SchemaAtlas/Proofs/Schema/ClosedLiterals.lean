import SchemaAtlas.Proofs.Schema.LineState

/-!
# Texts with closed string literals

A text ends outside of string literals if each literal in it is closed (`LiteralsClosed`), where a
backslash protects the next character of a literal.  So does a text that ends in the code, as far as
string literals are kept track of (`literalsClosed_of_inCode`), and the other way round a text with
closed literals never ends inside one (`LiteralsClosed.not_inLiteral_after`).
-/

namespace SchemaAtlas

open LineState

/-- The string literals of the text are closed in it. -/
inductive LiteralsClosed : List Char → Prop
  | nil : LiteralsClosed []
  | plain {c : Char} {cs : List Char} (hc : c ≠ '"') (hcs : LiteralsClosed cs) :
      LiteralsClosed (c :: cs)
  | literal {text cs : List Char} (htext : isLiteralText text) (hcs : LiteralsClosed cs) :
      LiteralsClosed ('"' :: (text ++ '"' :: cs))

theorem isLiteralText_append {cs : List Char} (h : isLiteralText cs) (ds : List Char) :
    isLiteralText (cs ++ ds) = isLiteralText ds := by
  induction cs using isLiteralText.induct with
  | case1 => rfl
  | case2 => cases h
  | case3 d cs ih => exact ih h
  | case4 c cs hc ih =>
    obtain ⟨hquote, hcs⟩ := (isLiteralText_cons hc cs).1 h
    rw [List.cons_append, Bool.eq_iff_iff, isLiteralText_cons hc, ih hcs]
    exact and_iff_right hquote

namespace LiteralsClosed

theorem append {cs ds : List Char} (hcs : LiteralsClosed cs) (hds : LiteralsClosed ds) :
    LiteralsClosed (cs ++ ds) := by
  induction hcs with
  | nil => exact hds
  | plain hc _ ih => exact .plain hc ih
  | literal htext _ ih =>
    rw [List.cons_append, List.append_assoc, List.cons_append]
    exact .literal htext ih

/-- Behind a text with closed literals no literal is open. -/
theorem not_inLiteral_after {cs : List Char} (h : LiteralsClosed cs) {s : LineState}
    (hs : ¬ s.inLiteral) : ¬ (s.after cs).inLiteral := by
  induction h generalizing s with
  | nil => exact hs
  | plain hc _ ih => exact ih (not_inLiteral_next hs hc)
  | literal htext _ ih =>
    rw [after_cons, after_append, after_cons]
    cases s with
    | code | slash =>
      have hquoted := after_literal htext
      simp only [next, if_true, hquoted]
      exact ih Bool.false_ne_true
    | quoted | escaped => exact absurd rfl hs
    | comment =>
      rw [show LineState.comment.next '"' = .comment from rfl, after_comment]
      exact ih Bool.false_ne_true

end LiteralsClosed

/-! ### Literals that are not closed -/

/-- What is known of a text that ends in a state. -/
def LineState.Describes : LineState → List Char → Prop
  | code, cs | slash, cs => LiteralsClosed cs
  | quoted, cs => ∃ front text, cs = front ++ '"' :: text ∧ LiteralsClosed front ∧ isLiteralText text
  | escaped, cs => ∃ front text,
    cs = front ++ '"' :: (text ++ ['\\']) ∧ LiteralsClosed front ∧ isLiteralText text
  | comment, _ => True

namespace LineState

theorem describes_next_of_inCode {s : LineState} (hs : s.inCode) {cs : List Char}
    (h : LiteralsClosed cs) (c : Char) : (s.next c).Describes (cs ++ [c]) := by
  by_cases hquote : c = '"'
  · subst hquote
    have hnext : s.next '"' = quoted := by
      cases s with
      | code | slash => rfl
      | quoted | escaped | comment => cases hs
    rw [hnext]
    exact ⟨cs, [], rfl, h, rfl⟩
  · have hclosed : LiteralsClosed (cs ++ [c]) := h.append (.plain hquote .nil)
    cases s with
    | code =>
      simp only [next, if_neg hquote]
      split_ifs
      · exact hclosed
      · exact hclosed
    | slash =>
      simp only [next, if_neg hquote]
      split_ifs
      · trivial
      · exact hclosed
    | quoted | escaped | comment => cases hs

theorem Describes.next {s : LineState} {cs : List Char} (h : s.Describes cs) (c : Char) :
    (s.next c).Describes (cs ++ [c]) := by
  cases s with
  | code | slash => exact describes_next_of_inCode rfl h c
  | quoted =>
    obtain ⟨front, text, rfl, hfront, htext⟩ := h
    by_cases hescape : c = '\\'
    · subst hescape
      exact ⟨front, text, by simp, hfront, htext⟩
    by_cases hquote : c = '"'
    · subst hquote
      have hliteral : LiteralsClosed ('"' :: (text ++ ['"'])) := .literal htext .nil
      have hclosed : LiteralsClosed (front ++ '"' :: text ++ ['"']) := by
        simpa using hfront.append hliteral
      exact hclosed
    · have hnext : quoted.next c = quoted := by
        simp only [LineState.next, if_neg hescape, if_neg hquote]
      have hlonger : isLiteralText (text ++ [c]) := by
        rw [isLiteralText_append htext]
        exact (isLiteralText_cons hescape []).2 ⟨hquote, rfl⟩
      rw [hnext]
      exact ⟨front, text ++ [c], by simp, hfront, hlonger⟩
  | escaped =>
    obtain ⟨front, text, rfl, hfront, htext⟩ := h
    have hlonger : isLiteralText (text ++ ['\\', c]) := by
      rw [isLiteralText_append htext]
      rfl
    exact ⟨front, text ++ ['\\', c], by simp, hfront, hlonger⟩
  | comment => trivial

theorem describes_stateAfter (cs : List Char) : (stateAfter cs).Describes cs := by
  induction cs using List.reverseRecOn with
  | nil => exact .nil
  | append_singleton cs c ih =>
    rw [stateAfter, after_append]
    exact ih.next c

end LineState

theorem literalsClosed_of_inCode {cs : List Char} (h : (stateAfter cs).inCode) :
    LiteralsClosed cs := by
  have hdescribes := describes_stateAfter cs
  cases hstate : stateAfter cs with
  | code | slash =>
    rw [hstate] at hdescribes
    exact hdescribes
  | quoted | escaped | comment =>
    rw [hstate] at h
    cases h

end SchemaAtlas

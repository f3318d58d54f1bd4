import SchemaAtlas.Proofs.Schema.ClosedLiterals

/-!
# Balanced texts

A text is `Balanced` if its parentheses are, where those in string literals do not count and each
literal is closed.  Such a text stands in an argument as any other part of it does: reading of the
argument goes through it and is at the same depth behind it (`argumentFrom_append_of_balanced`), so
the parenthesis behind the text closes the argument (`argumentText_of_balanced`).
-/

namespace SchemaAtlas

open Text LineState

/-- The parentheses outside of string literals are balanced, and string literals are closed. -/
inductive Balanced : List Char → Prop
  | nil : Balanced []
  | plain {c : Char} {cs : List Char} (hc : c ∉ ['"', '(', ')']) (hcs : Balanced cs) :
      Balanced (c :: cs)
  | literal {text cs : List Char} (htext : isLiteralText text) (hcs : Balanced cs) :
      Balanced ('"' :: (text ++ '"' :: cs))
  | parentheses {inner cs : List Char} (hinner : Balanced inner) (hcs : Balanced cs) :
      Balanced ('(' :: (inner ++ ')' :: cs))

namespace Balanced

theorem of_plain {cs : List Char} (h : ∀ c ∈ cs, c ∉ ['"', '(', ')']) : Balanced cs := by
  induction cs with
  | nil => exact .nil
  | cons c cs ih =>
    obtain ⟨hc, hcs⟩ := List.forall_mem_cons.1 h
    exact .plain hc (ih hcs)

theorem append {cs ds : List Char} (hcs : Balanced cs) (hds : Balanced ds) :
    Balanced (cs ++ ds) := by
  induction hcs with
  | nil => exact hds
  | plain hc _ ih => exact .plain hc ih
  | literal htext _ ih =>
    rw [List.cons_append, List.append_assoc, List.cons_append]
    exact .literal htext ih
  | parentheses hinner _ _ ih =>
    rw [List.cons_append, List.append_assoc, List.cons_append]
    exact .parentheses hinner ih

/-- String literals of a balanced text are closed. -/
theorem literalsClosed {cs : List Char} (h : Balanced cs) : LiteralsClosed cs := by
  induction h with
  | nil => exact .nil
  | plain hc _ ih => exact .plain (fun heq => hc (by simp [heq])) ih
  | literal htext _ ih => exact .literal htext ih
  | parentheses _ _ ihinner ih =>
    exact .plain (by decide) (ihinner.append (.plain (by decide) ih))

/-- Behind a balanced text no literal is open. -/
theorem not_inLiteral_after {cs : List Char} (h : Balanced cs) {s : LineState}
    (hs : ¬ s.inLiteral) : ¬ (s.after cs).inLiteral :=
  h.literalsClosed.not_inLiteral_after hs

theorem inCode_stateAfter {cs : List Char} (h : Balanced cs) (hcomment : stateAfter cs ≠ comment) :
    (stateAfter cs).inCode :=
  inCode_of_not_inLiteral (h.not_inLiteral_after Bool.false_ne_true) hcomment

end Balanced

namespace Attribute

theorem argumentFrom_append_of_balanced {cs : List Char} (h : Balanced cs) (depth : Nat)
    (rest : List Char) :
    argumentFrom false depth (cs ++ rest) = cs ++ argumentFrom false depth rest := by
  induction h generalizing depth rest with
  | nil => rfl
  | @plain c cs hc _ ih =>
    simp only [List.mem_cons, List.not_mem_nil, or_false, not_or] at hc
    have hdepth : depthBehind? depth c = some depth := by
      simp only [depthBehind?, if_neg hc.2.1, if_neg hc.2.2]
    rw [List.cons_append, argumentFrom_code, hdepth, beq_eq_false_iff_ne.2 hc.1]
    exact congrArg (c :: ·) (ih depth rest)
  | @literal text cs htext _ ih =>
    have hquote : argumentFrom false depth ('"' :: (text ++ '"' :: (cs ++ rest))) =
        '"' :: argumentFrom true depth (text ++ '"' :: (cs ++ rest)) := argumentFrom_code ..
    rw [List.cons_append, List.append_assoc, List.cons_append, hquote,
      argumentFrom_literal depth htext, ih]
    simp
  | @parentheses inner cs _ _ ihinner ih =>
    have hopen : argumentFrom false depth ('(' :: (inner ++ ')' :: (cs ++ rest))) =
        '(' :: argumentFrom false (depth + 1) (inner ++ ')' :: (cs ++ rest)) := argumentFrom_code ..
    have hclose : argumentFrom false (depth + 1) (')' :: (cs ++ rest)) =
        ')' :: argumentFrom false depth (cs ++ rest) := argumentFrom_code ..
    rw [List.cons_append, List.append_assoc, List.cons_append, hopen, ihinner, hclose, ih]
    simp

theorem argumentFrom_of_balanced {cs : List Char} (h : Balanced cs) (rest : List Char) :
    argumentFrom false 0 (cs ++ ')' :: rest) = cs := by
  have hclose : argumentFrom false 0 (')' :: rest) = [] := argumentFrom_code ..
  rw [argumentFrom_append_of_balanced h, hclose, List.append_nil]

theorem argumentText_of_balanced {cs : List Char} (h : Balanced cs) (rest : List Char) :
    argumentText (cs ++ ')' :: rest) = trim cs := by
  rw [argumentText, argumentFrom_of_balanced h]

end Attribute

end SchemaAtlas

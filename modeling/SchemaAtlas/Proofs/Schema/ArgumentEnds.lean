import SchemaAtlas.Proofs.Schema.BalancedText
import SchemaAtlas.Proofs.Text.Searching

/-!
# Where an argument ends

The parenthesis that closes an argument is the one with a balanced text in front of it
(`argumentText_of_balanced`).  If the reading of an argument stops in front of the end of the line,
it does so at such a parenthesis (`Attribute.exists_closesFrom_of_ne`), so an argument without one goes
on to the end of the line (`Attribute.argumentFrom_eq_self_iff`).

Main statement: the argument behind any parenthesis of a line is the text up to the one that closes
it, or up to the end of the line if none does, and the default of a field is the argument behind the
first `@default` (`argumentAt_ends`).
-/

namespace SchemaAtlas

open Text

/-- The text closes `depth` parentheses that are open in front of it, and else is balanced. -/
inductive Closes : Nat → List Char → Prop
  | none {cs : List Char} (hcs : Balanced cs) : Closes 0 cs
  | one {depth : Nat} {cs rest : List Char} (hcs : Balanced cs) (hrest : Closes depth rest) :
      Closes (depth + 1) (cs ++ ')' :: rest)

theorem Closes.append {cs : List Char} (hcs : Balanced cs) {depth : Nat} {rest : List Char}
    (hrest : Closes depth rest) : Closes depth (cs ++ rest) := by
  cases hrest with
  | none hrest => exact .none (hcs.append hrest)
  | one hfront hrest =>
    rw [← List.append_assoc]
    exact .one (hcs.append hfront) hrest

theorem Closes.balanced {cs : List Char} (h : Closes 0 cs) : Balanced cs := by
  cases h with
  | none hcs => exact hcs

/-- As `Closes`, for a text that starts inside a string literal if `inside` says so. -/
inductive ClosesFrom : Bool → Nat → List Char → Prop
  | code {depth : Nat} {cs : List Char} (hcs : Closes depth cs) : ClosesFrom false depth cs
  | literal {depth : Nat} {text cs : List Char} (htext : isLiteralText text) (hcs : Closes depth cs) :
      ClosesFrom true depth (text ++ '"' :: cs)

namespace ClosesFrom

variable {depth depth' : Nat} {c : Char} {cs : List Char}

theorem closes (h : ClosesFrom false depth cs) : Closes depth cs := by
  cases h with
  | code hcs => exact hcs

theorem escape (h : ClosesFrom true depth cs) (d : Char) :
    ClosesFrom true depth ('\\' :: d :: cs) := by
  cases h with
  | @literal _ text _ htext hcs =>
    have hescaped : isLiteralText ('\\' :: d :: text) := htext
    exact .literal hescaped hcs

theorem quoted (hc : c ≠ '\\') (h : ClosesFrom (c != '"') depth cs) :
    ClosesFrom true depth (c :: cs) := by
  by_cases hquote : c = '"'
  · subst hquote
    have hempty : isLiteralText [] := rfl
    exact .literal hempty h.closes
  · rw [bne_iff_ne.2 hquote] at h
    cases h with
    | literal htext hcs =>
      have hlonger := (isLiteralText_cons hc _).2 ⟨hquote, htext⟩
      exact .literal hlonger hcs

/-- A character of the code that leaves `depth'` parentheses open, which the rest of the text closes. -/
theorem closes_cons (hdepth : Attribute.depthBehind? depth c = some depth')
    (h : ClosesFrom (c == '"') depth' cs) : Closes depth (c :: cs) := by
  by_cases hquote : c = '"'
  · subst hquote
    obtain rfl : depth = depth' := by simpa [Attribute.depthBehind?] using hdepth
    cases h with
    | @literal _ text cs htext hcs =>
      have hliteral : Balanced ('"' :: (text ++ ['"'])) := .literal htext .nil
      simpa using hcs.append hliteral
  rw [beq_eq_false_iff_ne.2 hquote] at h
  have hcs := h.closes
  by_cases hopen : c = '('
  · subst hopen
    obtain rfl : depth + 1 = depth' := by simpa [Attribute.depthBehind?] using hdepth
    cases hcs with
    | one hinner hrest =>
      have hparentheses := Balanced.parentheses hinner .nil
      simpa using hrest.append hparentheses
  by_cases hclose : c = ')'
  · subst hclose
    cases depth with
    | zero => cases hdepth
    | succ depth =>
      obtain rfl : depth = depth' := by simpa [Attribute.depthBehind?] using hdepth
      exact .one .nil hcs
  · obtain rfl : depth = depth' := by simpa [Attribute.depthBehind?, hopen, hclose] using hdepth
    have hplain : Balanced [c] := .plain (by simp [hquote, hopen, hclose]) .nil
    exact hcs.append hplain

end ClosesFrom

namespace Attribute

theorem depthBehind?_eq_none {depth : Nat} {c : Char} (h : depthBehind? depth c = none) :
    depth = 0 ∧ c = ')' := by
  unfold depthBehind? at h
  by_cases hopen : c = '('
  · simp [hopen] at h
  by_cases hclose : c = ')'
  · cases depth with
    | zero => exact ⟨rfl, hclose⟩
    | succ depth => simp [hclose] at h
  · simp [hopen, hclose] at h

/-- The reading of an argument stops at a parenthesis of the code that closes it. -/
theorem exists_closesFrom_of_ne {inside : Bool} {depth : Nat} {cs : List Char}
    (h : argumentFrom inside depth cs ≠ cs) :
    ∃ front back, cs = front ++ ')' :: back ∧ ClosesFrom inside depth front := by
  have htail : ∀ {c : Char} {arg front : List Char}, c :: arg ≠ c :: front → arg ≠ front :=
    fun hne heq => hne (congrArg _ heq)
  induction inside, depth, cs using argumentFrom_induction with
  | nil inside depth => exact absurd (argumentFrom.eq_1 inside depth) h
  | escape_nil depth => exact absurd (by rw [argumentFrom.eq_def]; rfl) h
  | escape depth d cs ih =>
    rw [argumentFrom_escape] at h
    obtain ⟨front, back, rfl, hfront⟩ := ih (htail (htail h))
    exact ⟨'\\' :: d :: front, back, rfl, hfront.escape d⟩
  | quoted depth c cs hc ih =>
    rw [argumentFrom_quoted depth hc] at h
    obtain ⟨front, back, rfl, hfront⟩ := ih (htail h)
    exact ⟨c :: front, back, rfl, hfront.quoted hc⟩
  | close depth c cs hdepth =>
    obtain ⟨rfl, rfl⟩ := depthBehind?_eq_none hdepth
    exact ⟨[], cs, rfl, .code (.none .nil)⟩
  | code depth depth' c cs hdepth ih =>
    simp only [argumentFrom_code, hdepth] at h
    obtain ⟨front, back, rfl, hfront⟩ := ih (htail h)
    exact ⟨c :: front, back, rfl, .code (hfront.closes_cons hdepth)⟩

/-- An argument is read to the end of the text if no parenthesis in it closes the argument. -/
theorem argumentFrom_eq_self_iff {cs : List Char} :
    argumentFrom false 0 cs = cs ↔ ∀ inner rest, cs = inner ++ ')' :: rest → ¬ Balanced inner := by
  constructor
  · rintro h inner rest rfl hinner
    rw [argumentFrom_of_balanced hinner] at h
    simp at h
  · intro h
    by_contra hne
    obtain ⟨inner, rest, hcs, hinner⟩ := exists_closesFrom_of_ne hne
    exact h inner rest hcs hinner.closes.balanced

end Attribute

theorem balanced_iff {cs : List Char} :
    Balanced cs ↔ Attribute.argumentFrom false 0 (cs ++ [')']) = cs := by
  constructor
  · intro h
    exact Attribute.argumentFrom_of_balanced h []
  · intro h
    have hne : Attribute.argumentFrom false 0 (cs ++ [')']) ≠ cs ++ [')'] := by simp [h]
    obtain ⟨front, back, hcs, hfront⟩ := Attribute.exists_closesFrom_of_ne hne
    have hbalanced := hfront.closes.balanced
    rw [hcs, Attribute.argumentFrom_of_balanced hbalanced] at h
    exact h ▸ hbalanced

instance (cs : List Char) : Decidable (Balanced cs) :=
  decidable_of_iff _ balanced_iff.symm

namespace Attribute

theorem argumentAt_append (before cs : List Char) :
    argumentAt (before ++ '(' :: cs) before.length = .ofList (argumentText cs) := by
  have hdrop : (before ++ '(' :: cs).drop (before.length + 1) = cs := by
    rw [List.drop_length_add_append, List.drop_succ_cons, List.drop_zero]
  rw [argumentAt, show ((before.length : Int) + 1).toNat = before.length + 1 by omega, hdrop]

/-- The default is what stands in the argument of the first `@default`. -/
theorem defaultExpr?_append {front : List Char} (h : ¬ "@default(".toList <:+: front)
    (cs : List Char) :
    defaultExpr? (front ++ ("@default(".toList ++ cs)) = some (.ofList (argumentText cs)) := by
  have hword : "@default(".toList = '@' :: "default(".toList := rfl
  rw [defaultExpr?, afterFirst?_append hword (by decide) h, Option.map_some]

end Attribute

/-- The argument behind a parenthesis is the text up to the parenthesis that closes it, or the whole
rest of the line if none does, without blanks at its ends; and it is the default of a field if the
first `@default` stands in front of it. -/
theorem argumentAt_ends (before cs : List Char) :
    let line := before ++ '(' :: cs
    let argument := Attribute.argumentAt line before.length
    (∀ inner rest, Balanced inner → cs = inner ++ ')' :: rest → argument = .ofList (trim inner)) ∧
    ((∀ inner rest, cs = inner ++ ')' :: rest → ¬ Balanced inner) →
      argument = .ofList (trim cs)) ∧
    ∀ front, before = front ++ "@default".toList → ¬ "@default(".toList <:+: front →
      Attribute.defaultExpr? line = some argument := by
  intro line argument
  have hargument : argument = .ofList (Attribute.argumentText cs) :=
    Attribute.argumentAt_append before cs
  refine ⟨?_, ?_, ?_⟩
  · rintro inner rest hinner rfl
    rw [hargument, Attribute.argumentText_of_balanced hinner]
  · intro hopen
    rw [hargument, Attribute.argumentText, Attribute.argumentFrom_eq_self_iff.2 hopen]
  · rintro front rfl hfirst
    have hline : line = front ++ ("@default(".toList ++ cs) := by simp [line]
    rw [hargument, hline]
    exact Attribute.defaultExpr?_append hfirst cs

/-- An argument with a parenthesis in a string literal, and one that ends behind a backslash in a
literal that is not closed. -/
theorem argumentAt_ends_behind_literals :
    let before := "label String @default".toList
    let inner := " call(\"say \\\"hi)\\\"\", now()) ".toList
    let unclosed := "concat(\"a) \\".toList
    let line := before ++ '(' :: (inner ++ ')' :: " @map(\"x\")".toList)
    (Balanced inner ∧ Attribute.argumentAt line before.length = "call(\"say \\\"hi)\\\"\", now())") ∧
      ((∀ front rest, unclosed = front ++ ')' :: rest → ¬ Balanced front) ∧
        Attribute.argumentAt (before ++ '(' :: unclosed) before.length = "concat(\"a) \\") ∧
      ¬ "@default(".toList <:+: "label String ".toList ∧
      Attribute.defaultExpr? line = some "call(\"say \\\"hi)\\\"\", now())" := by
  intro before inner unclosed line
  have hinner : Balanced inner := by decide +kernel
  have hunclosed : ∀ front rest, unclosed = front ++ ')' :: rest → ¬ Balanced front :=
    Attribute.argumentFrom_eq_self_iff.1 (by decide +kernel)
  have hfirst : ¬ "@default(".toList <:+: "label String ".toList := by decide +kernel
  have htrim : String.ofList (trim inner) = "call(\"say \\\"hi)\\\"\", now())" := by decide +kernel
  obtain ⟨hclosed, -, hdefault⟩ := argumentAt_ends before (inner ++ ')' :: " @map(\"x\")".toList)
  have hargument := (hclosed inner _ hinner rfl).trans htrim
  refine ⟨⟨hinner, hargument⟩, ⟨hunclosed, ?_⟩, hfirst, ?_⟩
  · exact ((argumentAt_ends before unclosed).2.1 hunclosed).trans (by decide +kernel)
  · exact (hdefault "label String ".toList rfl hfirst).trans (congrArg some hargument)

end SchemaAtlas

import SchemaAtlas.Proofs.Schema.Placement
import SchemaAtlas.Text.Separated

/-!
# Schemas given by their lines

Lines that are joined with line feeds come apart again, except that an empty line at the very end is
lost (`lines_joined_append`).  A schema has no use for an empty last line (`Schema.ofLines_concat_nil`),
so the schema of joined lines is the schema of the lines (`Schema.ofText_joined`).
-/

namespace SchemaAtlas

namespace Text

/-! ### Lines and line feeds -/

theorem lines_cons {c : Char} (h : c ≠ '\r') (cs : List Char) :
    lines (c :: cs) =
      if isLineEnd c then [] :: lines cs
      else match lines cs with
        | [] => [[c]]
        | line :: more => (c :: line) :: more :=
  lines.eq_3 c cs fun _ hc _ => h hc

theorem ne_return_of_not_isLineEnd {c : Char} (h : ¬ isLineEnd c) : c ≠ '\r' := by
  rintro rfl
  exact h (by decide)

theorem lines_append_newline {line : List Char} (h : ∀ c ∈ line, ¬ isLineEnd c)
    (cs : List Char) : lines (line ++ '\n' :: cs) = line :: lines cs := by
  induction line with
  | nil => rw [List.nil_append, lines_cons (by decide), if_pos (by decide)]
  | cons c line ih =>
    obtain ⟨hc, hline⟩ := List.forall_mem_cons.1 h
    rw [List.cons_append, lines_cons (ne_return_of_not_isLineEnd hc), if_neg hc, ih hline]

theorem lines_eq_singleton {line : List Char} (h : ∀ c ∈ line, ¬ isLineEnd c)
    (hne : line ≠ []) : lines line = [line] := by
  induction line with
  | nil => exact absurd rfl hne
  | cons c line ih =>
    obtain ⟨hc, hline⟩ := List.forall_mem_cons.1 h
    rw [lines_cons (ne_return_of_not_isLineEnd hc), if_neg hc]
    cases line with
    | nil => rw [lines_nil]
    | cons d line => rw [ih hline (List.cons_ne_nil d line)]

theorem toList_joined_cons_cons (line next : List Char) (more : List (List Char)) :
    (joined "\n" ((line :: next :: more).map String.ofList)).toList =
      line ++ '\n' :: (joined "\n" ((next :: more).map String.ofList)).toList := by
  simp [joined_cons_cons]

/-- Joined lines come apart again, up to an empty line at the end. -/
theorem lines_joined_append {ls : List (List Char)} (h : ∀ line ∈ ls, ∀ c ∈ line, ¬ isLineEnd c) :
    lines (joined "\n" (ls.map String.ofList)).toList = ls ∨
      lines (joined "\n" (ls.map String.ofList)).toList ++ [[]] = ls := by
  induction ls with
  | nil => exact .inl (by simp)
  | cons line ls ih =>
    obtain ⟨hline, hls⟩ := List.forall_mem_cons.1 h
    cases ls with
    | nil =>
      by_cases hne : line = []
      · exact .inr (by simp [hne])
      · exact .inl (by simp [lines_eq_singleton hline hne])
    | cons next more =>
      rw [toList_joined_cons_cons, lines_append_newline hline]
      obtain he | he := ih hls
      · exact .inl (congrArg (line :: ·) he)
      · exact .inr (congrArg (line :: ·) he)

end Text

open Text

/-! ### An empty last line -/

namespace Block

theorem bodyLength?_concat_nil {depth : Int} (h : 0 < depth) (rest : List Line) :
    bodyLength? depth (rest ++ [[]]) = bodyLength? depth rest := by
  induction rest generalizing depth with
  | nil =>
    have hb : balance [] = 0 := rfl
    simp only [List.nil_append, bodyLength?, hb]
    rw [if_neg (by omega)]
    rfl
  | cons line rest ih =>
    simp only [List.cons_append, bodyLength?]
    split
    · rfl
    · rw [ih (by omega)]

theorem read?_concat_nil (header : Line) (rest : List Line) :
    read? header (rest ++ [[]]) = read? header rest := by
  unfold read?
  split
  · rfl
  · rw [bodyLength?_concat_nil (by omega)]
    cases hn : bodyLength? (headerDepth header) rest with
    | none => rfl
    | some n =>
      have hlt := bodyLength?_lt hn
      simp only [Option.map_some, List.take_append_of_le_length (Nat.le_of_lt hlt)]

end Block

theorem placedFrom_concat_nil (number inside : Nat) (ls : List Line) :
    placedFrom number inside (ls ++ [[]]) = placedFrom number inside ls := by
  fun_induction placedFrom number inside ls with
  | case1 number inside =>
    have hnil : Header.read? [] = none := by decide
    cases inside <;> simp [placedFrom, hnil]
  | case2 number line rest inside ih => exact ih
  | case3 number line rest hheader ih =>
    simpa only [List.cons_append, placedFrom, hheader] using ih
  | case4 number line rest header hheader hblock =>
    simp only [List.cons_append, placedFrom, hheader, Block.read?_concat_nil, hblock]
  | case5 number line rest header hheader block hblock ih =>
    simp only [List.cons_append, placedFrom, hheader, Block.read?_concat_nil, hblock, ih]

theorem declaredEnumerations_concat_nil (ls : List Line) :
    declaredEnumerations (ls ++ [[]]) = declaredEnumerations ls := by
  have hnil : enumerationHeader? [] = none := by decide
  simp [declaredEnumerations, hnil]

namespace Schema

theorem ofLines_concat_nil (ls : List Line) : ofLines (ls ++ [[]]) = ofLines ls := by
  simp only [ofLines, declarationsFrom_eq_map, placedFrom_concat_nil,
    declaredEnumerations_concat_nil]

theorem ofText_joined {ls : List Line} (h : ∀ line ∈ ls, ∀ c ∈ line, ¬ isLineEnd c) :
    ofText (joined "\n" (ls.map String.ofList)) = ofLines ls := by
  unfold ofText
  obtain he | he := lines_joined_append h
  · rw [he]
  · rw [← ofLines_concat_nil, he]

end Schema

end SchemaAtlas

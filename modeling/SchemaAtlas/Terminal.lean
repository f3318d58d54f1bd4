import SchemaAtlas.Console
import SchemaAtlas.Text.Separated

/-!
# Console items as plain text

`readMarks` reads the marks of a text and leaves them out: a mark `[a]` begins the style `a`, the mark
`[/a]` ends it, and `[/]` ends the style that was begun last.  A style that has not been begun cannot
be ended.  `Markup.nested` is the console that reads marks in this way, and `ConsoleItem.plainText`
writes an item without styles; the columns of a table are as wide as their widest cell.
-/

namespace SchemaAtlas

open Text

/-! ### Marks -/

/-- What stands in a mark at the beginning of a text. -/
def markAt? : List Char → Option (List Char)
  | '[' :: c :: rest =>
    let inside := c :: rest.takeWhile fun d => d != '[' && d != ']'
    if (c.isLower || "#/@".toList.contains c) && ((c :: rest).drop inside.length).head? == some ']'
    then some inside
    else none
  | _ => none

/-- The styles that have to be ended behind a mark, if it does not end one that has not been begun. -/
def stylesBehind? (begun : List (List Char)) : List Char → Option (List (List Char))
  | ['/'] => begun.tail?
  | '/' :: name => if name ∈ begun then some (begun.erase name) else none
  | name => some (name :: begun)

/-- A mark ends a style that has not been begun. -/
def MarkupFault.unbegun (inside : List Char) (position : Nat) : MarkupFault where
  message := "closing tag '[" ++ .ofList inside ++ "]' at position " ++ toString position ++
    if inside = ['/'] then " has nothing to close" else " doesn't match any open tag"

/-- Reads the marks of a text of the given length.  The next `skipped` characters belong to a mark that
has been read, and the styles in `begun` have to be ended yet. -/
def readMarks (length : Nat) : Nat → List (List Char) → List Char → Except MarkupFault (List Char)
  | _, _, [] => .ok []
  | skipped + 1, begun, _ :: rest => readMarks length skipped begun rest
  | 0, begun, c :: rest =>
    match markAt? (c :: rest) with
    | none => (readMarks length 0 begun rest).map (c :: ·)
    | some inside =>
      match stylesBehind? begun inside with
      | some begun => readMarks length (inside.length + 1) begun rest
      | none => .error (.unbegun inside (length - (rest.length + 1)))

section

variable {length : Nat} {begun : List (List Char)}

theorem readMarks_skip (front rest : List Char) :
    readMarks length front.length begun (front ++ rest) = readMarks length 0 begun rest := by
  induction front with
  | nil => rfl
  | cons c front ih => exact ih

/-- Where there is no bracket, nothing is left out. -/
theorem readMarks_append {front : List Char} (hfront : '[' ∉ front) (rest : List Char) :
    readMarks length 0 begun (front ++ rest) =
      (readMarks length 0 begun rest).map (front ++ ·) := by
  induction front with
  | nil =>
    rw [List.nil_append]
    cases readMarks length 0 begun rest <;> rfl
  | cons c front ih =>
    rw [List.mem_cons, not_or] at hfront
    have hmark : markAt? (c :: (front ++ rest)) = none := by
      unfold markAt?
      split
      · next heq => exact absurd (List.cons.inj heq).1.symm hfront.1
      · rfl
    rw [List.cons_append, readMarks, hmark]
    simp only [ih hfront.2]
    cases readMarks length 0 begun rest <;> rfl

theorem isOk_map {ε α β : Type} (result : Except ε α) (f : α → β) :
    (result.map f).isOk = result.isOk := by
  cases result <;> rfl

theorem isOk_readMarks_append {front : List Char} (hfront : '[' ∉ front) {rest : List Char}
    (h : (readMarks length 0 begun rest).isOk) :
    (readMarks length 0 begun (front ++ rest)).isOk := by
  rwa [readMarks_append hfront, isOk_map]

theorem isOk_readMarks_of_unmarked {text : List Char} (h : '[' ∉ text) :
    (readMarks length 0 begun text).isOk := by
  rw [← List.append_nil text]
  exact isOk_readMarks_append h rfl

theorem readMarks_mark {c : Char} {name : List Char} {behind : List (List Char)}
    (hc : c.isLower || "#/@".toList.contains c) (hname : ∀ d ∈ name, d ≠ '[' ∧ d ≠ ']')
    (hbehind : stylesBehind? begun (c :: name) = some behind) (rest : List Char) :
    readMarks length 0 begun ('[' :: (c :: name ++ ']' :: rest)) =
      readMarks length 0 behind rest := by
  have htake : (name ++ ']' :: rest).takeWhile (fun d => d != '[' && d != ']') = name := by
    rw [List.takeWhile_append_of_pos (by simpa using hname)]
    simp
  have hmark : markAt? ('[' :: (c :: name ++ ']' :: rest)) = some (c :: name) := by
    rw [List.cons_append, markAt?, htake, hc]
    simp
  rw [readMarks, hmark]
  simp only [hbehind]
  rw [List.append_cons, show (c :: name).length + 1 = (c :: name ++ [']']).length by simp,
    readMarks_skip]

/-- A style that is begun and ended in front of a text without brackets. -/
theorem isOk_readMarks_styled {c : Char} {name text rest : List Char}
    (hname : ∀ d ∈ c :: name, d.isLower) (htext : '[' ∉ text) (hrest : '[' ∉ rest) :
    (readMarks length 0 [] ('[' :: (c :: name ++ ']' ::
      (text ++ '[' :: ('/' :: c :: name ++ ']' :: rest))))).isOk := by
  have hbrackets : ∀ d ∈ c :: name, d ≠ '[' ∧ d ≠ ']' := by
    refine fun d hd => ⟨?_, ?_⟩ <;> (rintro rfl; cases hname _ hd)
  obtain ⟨hc, hrestName⟩ := List.forall_mem_cons.1 hname
  have hslash : c ≠ '/' := by
    rintro rfl
    cases hc
  have hbegin : stylesBehind? [] (c :: name) = some [c :: name] := by
    unfold stylesBehind?
    split
    · next h => exact absurd (List.cons.inj h).1 hslash
    · next h => exact absurd (List.cons.inj h).1 hslash
    · rfl
  have hend : stylesBehind? [c :: name] ('/' :: c :: name) = some [] := by
    simp [stylesBehind?]
  rw [readMarks_mark (by rw [hc]; rfl) (List.forall_mem_cons.1 hbrackets).2 hbegin]
  apply isOk_readMarks_append htext
  rw [readMarks_mark rfl hbrackets hend]
  exact isOk_readMarks_of_unmarked hrest

end

/-- A console on which styles can be begun and ended. -/
def Markup.nested : Markup where
  shown text := (readMarks text.length 0 [] text.toList).map String.ofList
  isOk_unmarked text htext := by
    rw [isOk_map]
    exact isOk_readMarks_of_unmarked htext
  isOk_styled style hstyle text rest htext _ hrest := by
    have hletters : ∀ style ∈ styleNames, style.toList ≠ [] ∧ style.toList.all Char.isLower := by
      decide
    obtain ⟨hne, hlower⟩ := hletters style hstyle
    obtain ⟨c, name, hname⟩ := List.exists_cons_of_ne_nil hne
    rw [hname, List.all_eq_true] at hlower
    have htoList : (styled style text ++ rest).toList = '[' :: (c :: name ++ ']' ::
        (text.toList ++ '[' :: ('/' :: c :: name ++ ']' :: rest.toList))) := by
      simp [styled, hname]
    rw [isOk_map, htoList]
    exact isOk_readMarks_styled hlower htext hrest

/-! ### Items -/

/-- A cell with blanks behind it. -/
def padded (width : Nat) (s : String) : String :=
  s ++ .ofList (List.replicate (width - s.length) ' ')

/-- The cells of every row under one another. -/
def alignedRows (rows : List (List String)) (columns : Nat) : List String :=
  let widths := (List.range columns).map fun n =>
    (rows.map fun row => (row[n]?.getD "").length).foldl max 0
  rows.map fun row => joined "  " (List.zipWith padded widths row)

/-- A table without styles. -/
def ConsoleTable.plainText (t : ConsoleTable) : Except MarkupFault String := do
  let title ← Markup.nested.shown t.title
  let rows ← (t.columns :: t.rows).mapM fun row => row.mapM Markup.nested.shown
  return joined "\n" (title :: alignedRows rows t.columns.length)

/-- An item without styles. -/
def ConsoleItem.plainText : ConsoleItem → Except MarkupFault String
  | .line s | .live s => Markup.nested.shown s
  | .verbatim s => .ok s
  | .table t => t.plainText

end SchemaAtlas

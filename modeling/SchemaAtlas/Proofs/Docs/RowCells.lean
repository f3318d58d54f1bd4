import Mathlib.Algebra.GroupWithZero.Nat
import Mathlib.Data.List.Basic
import SchemaAtlas.Docs.Markdown

/-!
# Cells of table rows

A row of a table is read by cutting it at the bars that have no backslash in front of them
(`rowCells`).  Rows are written without regard to what the cells hold, so a row reads as its cells if
and only if no cell has such a bar (`length_rowCells_rowLine_iff`, `rowCells_rowLine_eq`).
-/

namespace SchemaAtlas.Docs

open Text Markdown

/-! ### Reading a row -/

/-- The text up to the first bar that has no backslash in front of it, and the parts behind it;
`escaped` says whether a backslash stands in front of the text. -/
def cutAtBars (escaped : Bool) : List Char → List Char × List (List Char)
  | [] => ([], [])
  | c :: rest =>
    if c = '|' ∧ escaped = false then
      let cut := cutAtBars false rest
      ([], cut.1 :: cut.2)
    else
      let cut := cutAtBars (c == '\\') rest
      (c :: cut.1, cut.2)

/-- The parts of a text between its bars. -/
def partsAtBars (cs : List Char) : List (List Char) :=
  (cutAtBars false cs).1 :: (cutAtBars false cs).2

/-- The cells of a row, without the blank at both sides: the parts between its first bar and its last
one. -/
def rowCells (line : String) : List String :=
  ((partsAtBars line.toList).drop 1).dropLast.map fun part => .ofList (part.drop 1).dropLast

/-- The number of bars that have no backslash in front of them. -/
def bareBars (escaped : Bool) : List Char → Nat
  | [] => 0
  | c :: rest => (if c = '|' ∧ escaped = false then 1 else 0) + bareBars (c == '\\') rest

/-- All bars in the text have a backslash in front of them. -/
def IsOneCell (s : String) : Prop :=
  bareBars false s.toList = 0

instance : DecidablePred IsOneCell := fun _ => inferInstanceAs (Decidable (_ = _))

theorem cutAtBars_bar (rest : List Char) : cutAtBars false ('|' :: rest) = ([], partsAtBars rest) :=
  rfl

theorem cutAtBars_cons {escaped : Bool} {c : Char} (h : ¬ (c = '|' ∧ escaped = false))
    (rest : List Char) : cutAtBars escaped (c :: rest) =
      (c :: (cutAtBars (c == '\\') rest).1, (cutAtBars (c == '\\') rest).2) := by
  rw [cutAtBars, if_neg h]

theorem bareBars_cons_of_ne {c : Char} (h : c ≠ '|') (escaped : Bool) (rest : List Char) :
    bareBars escaped (c :: rest) = bareBars (c == '\\') rest := by
  rw [bareBars, if_neg fun hbar => h hbar.1, Nat.zero_add]

/-- Every bar that counts begins a part. -/
theorem length_cutAtBars (escaped : Bool) (cs : List Char) :
    (cutAtBars escaped cs).2.length = bareBars escaped cs := by
  induction cs generalizing escaped with
  | nil => rfl
  | cons c cs ih =>
    by_cases hbar : c = '|' ∧ escaped = false
    · obtain ⟨rfl, rfl⟩ := hbar
      rw [cutAtBars_bar, partsAtBars, List.length_cons, ih, Nat.add_comm]
      rfl
    · rw [cutAtBars_cons hbar, bareBars, if_neg hbar, Nat.zero_add, ih]

theorem cutAtBars_of_bareBars_eq_zero {escaped : Bool} {cs : List Char}
    (h : bareBars escaped cs = 0) : cutAtBars escaped cs = (cs, []) := by
  induction cs generalizing escaped with
  | nil => rfl
  | cons c cs ih =>
    have hbar : ¬ (c = '|' ∧ escaped = false) := by
      intro hbar
      rw [bareBars, if_pos hbar] at h
      omega
    rw [bareBars, if_neg hbar, Nat.zero_add] at h
    rw [cutAtBars_cons hbar, ih h]

/-- A bar behind a blank ends a part, whatever stands in front of it. -/
theorem cutAtBars_append_bar (escaped : Bool) (cs rest : List Char) :
    cutAtBars escaped (cs ++ ' ' :: '|' :: rest) =
      ((cutAtBars escaped (cs ++ [' '])).1,
        (cutAtBars escaped (cs ++ [' '])).2 ++ partsAtBars rest) := by
  induction cs generalizing escaped with
  | nil => rfl
  | cons c cs ih =>
    rw [List.cons_append, List.cons_append]
    by_cases hbar : c = '|' ∧ escaped = false
    · obtain ⟨rfl, rfl⟩ := hbar
      rw [cutAtBars_bar, cutAtBars_bar, partsAtBars, partsAtBars, ih]
      rfl
    · rw [cutAtBars_cons hbar, cutAtBars_cons hbar, ih]

/-! ### Counting bars -/

/-- Bars are counted part by part, if the next part does not begin with a bar. -/
theorem bareBars_append_cons {c : Char} (hc : c ≠ '|') (escaped : Bool) (front back : List Char) :
    bareBars escaped (front ++ c :: back) =
      bareBars escaped front + bareBars (c == '\\') back := by
  induction front generalizing escaped with
  | nil =>
    rw [List.nil_append, bareBars_cons_of_ne hc]
    exact (Nat.zero_add _).symm
  | cons d front ih =>
    rw [List.cons_append, bareBars, bareBars, ih, Nat.add_assoc]

theorem bareBars_of_notMem {cs : List Char} (h : '|' ∉ cs) (escaped : Bool) :
    bareBars escaped cs = 0 := by
  induction cs generalizing escaped with
  | nil => rfl
  | cons c cs ih =>
    rw [List.mem_cons, not_or] at h
    rw [bareBars_cons_of_ne (Ne.symm h.1), ih h.2]

theorem isOneCell_of_notMem {s : String} (h : '|' ∉ s.toList) : IsOneCell s :=
  bareBars_of_notMem h false

/-- The sign of a separator and the blank behind it keep the bars of its neighbours apart. -/
theorem isOneCell_joined {sep : String} {c : Char} (hsep : sep.toList = [c, ' ']) (hc : c ≠ '|')
    (parts : List String) : IsOneCell (joined sep parts) ↔ ∀ part ∈ parts, IsOneCell part := by
  fun_induction joined sep parts with
  | case1 => exact iff_of_true rfl (List.forall_mem_nil _)
  | case2 s => exact List.forall_mem_singleton.symm
  | case3 s t rest ih =>
    rw [List.forall_mem_cons, ← ih]
    unfold IsOneCell
    rw [String.toList_append, String.toList_append, hsep, List.append_assoc]
    show bareBars false (s.toList ++ c :: ' ' :: _) = 0 ↔ _
    rw [bareBars_append_cons hc, bareBars_cons_of_ne (by decide), Nat.add_eq_zero_iff]
    rfl

/-! ### Reading what is written -/

/-- A cell with the blanks around it and the bar behind it. -/
def cellText (cell : String) : List Char :=
  ' ' :: (cell.toList ++ [' ', '|'])

theorem toList_joined_bars {cells : List String} (h : cells ≠ []) :
    ' ' :: ((joined " | " cells).toList ++ [' ', '|']) = cells.flatMap cellText := by
  fun_induction joined " | " cells with
  | case1 => exact absurd rfl h
  | case2 s => exact (List.append_nil _).symm
  | case3 s t rest ih =>
    rw [List.flatMap_cons, ← ih (List.cons_ne_nil t rest), String.toList_append,
      String.toList_append]
    unfold cellText
    simp

theorem toList_rowLine {cells : List String} (h : cells ≠ []) :
    (rowLine cells).toList = '|' :: cells.flatMap cellText := by
  unfold rowLine
  rw [← toList_joined_bars h, String.toList_append, String.toList_append]
  rfl

theorem partsAtBars_flatMap (cells : List String) :
    partsAtBars (cells.flatMap cellText) =
      cells.flatMap (fun cell => partsAtBars (' ' :: (cell.toList ++ [' ']))) ++ [[]] := by
  induction cells with
  | nil => rfl
  | cons cell cells ih =>
    have hcell : cellText cell ++ cells.flatMap cellText =
        (' ' :: cell.toList) ++ ' ' :: '|' :: cells.flatMap cellText := by
      unfold cellText
      simp
    rw [List.flatMap_cons, List.flatMap_cons, hcell, partsAtBars, cutAtBars_append_bar, ih,
      List.append_assoc]
    rfl

/-- A row reads as the parts of its cells. -/
theorem rowCells_rowLine {cells : List String} (h : cells ≠ []) :
    rowCells (rowLine cells) = (cells.flatMap fun cell =>
      partsAtBars (' ' :: (cell.toList ++ [' ']))).map fun part =>
        .ofList (part.drop 1).dropLast := by
  unfold rowCells
  rw [toList_rowLine h, partsAtBars, cutAtBars_bar, partsAtBars_flatMap, List.drop_succ_cons,
    List.drop_zero, List.dropLast_concat]

theorem bareBars_cell (cell : String) :
    bareBars false (' ' :: (cell.toList ++ [' '])) = bareBars false cell.toList := by
  rw [bareBars_cons_of_ne (by decide), bareBars_append_cons (by decide)]
  rfl

theorem length_rowCells_rowLine {cells : List String} (h : cells ≠ []) :
    (rowCells (rowLine cells)).length =
      cells.length + (cells.map fun cell => bareBars false cell.toList).sum := by
  have hlength : ∀ cell : String, (partsAtBars (' ' :: (cell.toList ++ [' ']))).length =
      1 + bareBars false cell.toList := by
    intro cell
    unfold partsAtBars
    rw [List.length_cons, length_cutAtBars, bareBars_cell, Nat.add_comm]
  rw [rowCells_rowLine h, List.length_map, List.length_flatMap]
  clear h
  induction cells with
  | nil => rfl
  | cons cell cells ih =>
    simp only [List.map_cons, List.sum_cons, List.length_cons, hlength] at ih ⊢
    omega

/-- A row has as many cells as were written if and only if none of them has a bare bar. -/
theorem length_rowCells_rowLine_iff {cells : List String} (h : cells ≠ []) :
    (rowCells (rowLine cells)).length = cells.length ↔ ∀ cell ∈ cells, IsOneCell cell := by
  rw [length_rowCells_rowLine h, Nat.add_eq_left, List.sum_eq_zero_iff_forall_eq_nat,
    List.forall_mem_map]
  rfl

/-- Such a row reads as what was written. -/
theorem rowCells_rowLine_eq {cells : List String} (h : cells ≠ [])
    (hcells : ∀ cell ∈ cells, IsOneCell cell) : rowCells (rowLine cells) = cells := by
  have hcell : ∀ cell ∈ cells, (partsAtBars (' ' :: (cell.toList ++ [' ']))).map
      (fun part => String.ofList (part.drop 1).dropLast) = [cell] := by
    intro cell hcell
    have hbars : bareBars false (' ' :: (cell.toList ++ [' '])) = 0 := by
      rw [bareBars_cell]
      exact hcells cell hcell
    unfold partsAtBars
    rw [cutAtBars_of_bareBars_eq_zero hbars, List.map_singleton, List.drop_succ_cons,
      List.drop_zero, List.dropLast_concat, String.ofList_toList]
  rw [rowCells_rowLine h, List.map_flatMap, List.flatMap_congr hcell, List.flatMap_singleton']

end SchemaAtlas.Docs

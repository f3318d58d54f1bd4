import SchemaAtlas.Proofs.Docs.PageTables
import SchemaAtlas.Proofs.Docs.RowCells
import SchemaAtlas.Proofs.Schema.FieldTexts
import SchemaAtlas.Proofs.Text.LineEnds

/-!
# Cells on the page of a model

On the page of a model, only the texts that are free can have a bar without a backslash in front of it:
the default, the native type and the comment of a field, and the names in the lists of a relation.  All
else in a row is made of words and of fixed texts.

Main statement: which rows of the tables on the page of a model read as many cells as the header
(`modelPage_tables`), with a comment that adds a cell to its row (`not_rowsFitHeader`).
-/

namespace SchemaAtlas.Docs

open Text Markdown

/-! ### Cells with fixed texts around them -/

theorem isOneCell_code (s : String) : IsOneCell (code s) ↔ IsOneCell s := by
  unfold IsOneCell code
  rw [String.toList_append, String.toList_append]
  show bareBars false (('`' :: s.toList) ++ '`' :: []) = 0 ↔ _
  rw [bareBars_append_cons (by decide), bareBars_cons_of_ne (by decide)]
  rfl

theorem isOneCell_labelled (part : String) :
    IsOneCell (labelled "DB: " part) ↔ IsOneCell part := by
  unfold labelled
  split
  case isTrue h => rw [String.isEmpty_iff.1 h]
  case isFalse =>
    unfold IsOneCell
    rw [String.toList_append]
    show bareBars false ('D' :: 'B' :: ':' :: ' ' :: part.toList) = 0 ↔ _
    rw [bareBars_cons_of_ne (by decide), bareBars_cons_of_ne (by decide),
      bareBars_cons_of_ne (by decide), bareBars_cons_of_ne (by decide)]
    rfl

/-- An empty note is left out, but it would be one cell as well. -/
theorem isOneCell_fieldNotes (f : Field) : IsOneCell (fieldNotes f) ↔
    IsOneCell (textOrEmpty f.nativeType) ∧ IsOneCell (textOrEmpty f.comment) := by
  have hall : ∀ notes : List String, (∀ note ∈ notes.filter fun note => !note.isEmpty,
      IsOneCell note) ↔ ∀ note ∈ notes, IsOneCell note := by
    intro notes
    refine ⟨fun h note hnote => ?_, fun h note hnote => h note (List.mem_of_mem_filter hnote)⟩
    by_cases hnone : note = ""
    · rw [hnone]
      decide
    · exact h note (List.mem_filter.2 ⟨hnote, by simpa using hnone⟩)
  unfold fieldNotes
  rw [isOneCell_joined rfl (by decide), hall, List.forall_mem_cons, List.forall_mem_singleton,
    isOneCell_labelled]

theorem isOneCell_namesOrDash (names : List String) :
    IsOneCell (namesOrDash names) ↔ ∀ name ∈ names, IsOneCell name := by
  unfold namesOrDash
  split
  case isTrue h =>
    rw [List.isEmpty_iff.1 h]
    exact iff_of_true (by decide) (List.forall_mem_nil _)
  case isFalse => exact isOneCell_joined rfl (by decide) names

/-! ### Characters of cells -/

section

variable {c : Char}

theorem notMem_rowLine (hc : c ∉ " | ".toList) {cells : List String}
    (h : ∀ cell ∈ cells, c ∉ cell.toList) : c ∉ (rowLine cells).toList := by
  have hjoined := notMem_joined hc h
  unfold rowLine
  simp at hc ⊢
  tauto

theorem notMem_code (hc : c ≠ '`') {s : String} (h : c ∉ s.toList) : c ∉ (code s).toList := by
  unfold code
  simp
  tauto

theorem notMem_pageLink (hc : c ∉ "[](./.md)".toList) {name : String} (h : c ∉ name.toList) :
    c ∉ (pageLink name).toList := by
  unfold pageLink link
  simp at hc ⊢
  tauto

theorem notMem_typeLabel (hc : c ∉ "[]?".toList) {f : Field} (h : c ∉ f.baseType.toList) :
    c ∉ f.typeLabel.toList := by
  unfold Field.typeLabel
  cases f.isList <;> cases f.isOptional <;> simp at hc ⊢ <;> tauto

theorem notMem_labelled {label part : String} (hc : c ∉ label.toList) (h : c ∉ part.toList) :
    c ∉ (labelled label part).toList := by
  unfold labelled
  split
  · exact List.not_mem_nil
  · rw [String.toList_append, List.mem_append, not_or]
    exact ⟨hc, h⟩

theorem notMem_textOrEmpty {o : Option String} (h : ∀ s, o = some s → c ∉ s.toList) :
    c ∉ (textOrEmpty o).toList := by
  cases o with
  | none => exact List.not_mem_nil
  | some s => exact h s rfl

theorem notMem_namesOrDash (hc : c ∉ "-, ".toList) {names : List String}
    (h : ∀ name ∈ names, c ∉ name.toList) : c ∉ (namesOrDash names).toList := by
  have hjoined : c ∉ (joined ", " names).toList := notMem_joined (by simp at hc ⊢; tauto) h
  unfold namesOrDash
  split
  · simp at hc ⊢
    tauto
  · exact hjoined

end

/-! ### Rows of the page of a model -/

section

variable {lines : List Line} {f : Field}

/-- No cell in the row of a field goes over the end of a line. -/
theorem newline_notMem_fieldRow (hlines : ∀ line ∈ lines, '\n' ∉ line) (hf : f.IsTakenFrom lines) :
    ∀ cell ∈ fieldRow f, '\n' ∉ cell.toList := by
  have hword : ¬ isWord '\n' := by decide
  have hinitial : '\n' ∉ (textOrEmpty f.defaultExpr).toList :=
    notMem_textOrEmpty fun s hs => (hf.defaultExpr s hs).notMem hlines
  have hnotes : '\n' ∉ (fieldNotes f).toList := by
    unfold fieldNotes
    refine notMem_joined (by decide) fun note hnote => ?_
    have hmem := List.mem_of_mem_filter hnote
    rw [List.mem_cons, List.mem_singleton] at hmem
    rcases hmem with rfl | rfl
    · exact notMem_labelled (by decide)
        (notMem_textOrEmpty fun s hs => (hf.nativeType s hs).notMem hlines)
    · exact notMem_textOrEmpty fun s hs => (hf.comment s hs).notMem hlines
  unfold fieldRow
  simp only [List.forall_mem_cons]
  refine ⟨notMem_code (by decide) (hf.name.notMem hword),
    notMem_code (by decide) (notMem_typeLabel (by decide) (hf.baseType.notMem hword)), ?_, ?_, ?_,
    hnotes, List.forall_mem_nil _⟩
  · split <;> decide
  · split
    · decide
    · split <;> decide
  · split
    · decide
    · exact notMem_code (by decide) hinitial

/-- Of the cells in the row of a field, those with the default and with the notes may come apart. -/
theorem isOneCell_fieldRow_iff (hf : f.IsTakenFrom lines) :
    (∀ cell ∈ fieldRow f, IsOneCell cell) ↔ IsOneCell (textOrEmpty f.defaultExpr) ∧
      IsOneCell (textOrEmpty f.nativeType) ∧ IsOneCell (textOrEmpty f.comment) := by
  have hword : ¬ isWord '|' := by decide
  have hname : IsOneCell (code f.name) :=
    isOneCell_of_notMem (notMem_code (by decide) (hf.name.notMem hword))
  have htype : IsOneCell (code f.typeLabel) := isOneCell_of_notMem
    (notMem_code (by decide) (notMem_typeLabel (by decide) (hf.baseType.notMem hword)))
  have hrequired : IsOneCell (if f.isOptional then "❌" else "✅") := by split <;> decide
  have hkey : IsOneCell (if f.isId then "🔑 PK" else if f.isUnique then "✅" else "") := by
    split
    · decide
    · split <;> decide
  have hinitial : IsOneCell (if (textOrEmpty f.defaultExpr).isEmpty then ""
      else code (textOrEmpty f.defaultExpr)) ↔ IsOneCell (textOrEmpty f.defaultExpr) := by
    split
    case isTrue h => rw [String.isEmpty_iff.1 h]
    case isFalse => exact isOneCell_code _
  unfold fieldRow
  simp only [List.forall_mem_cons]
  constructor
  · rintro ⟨-, -, -, -, hdefault, hfree, -⟩
    exact ⟨hinitial.1 hdefault, (isOneCell_fieldNotes f).1 hfree⟩
  · rintro ⟨hdefault, hfree⟩
    exact ⟨hname, htype, hrequired, hkey, hinitial.2 hdefault, (isOneCell_fieldNotes f).2 hfree,
      List.forall_mem_nil _⟩

theorem newline_notMem_relationRow (hlines : ∀ line ∈ lines, '\n' ∉ line)
    (hf : f.IsTakenFrom lines) : ∀ cell ∈ relationRow f, '\n' ∉ cell.toList := by
  have hword : ¬ isWord '\n' := by decide
  unfold relationRow
  simp only [List.forall_mem_cons]
  refine ⟨notMem_code (by decide) (hf.name.notMem hword),
    notMem_pageLink (by decide) (hf.baseType.notMem hword), ?_,
    notMem_namesOrDash (by decide) fun s hs => (hf.foreignKeys s hs).notMem hlines,
    notMem_namesOrDash (by decide) fun s hs => (hf.references s hs).notMem hlines, ?_,
    List.forall_mem_nil _⟩
  · cases f.multiplicity <;> decide
  · split
    · decide
    · exact notMem_textOrEmpty fun s hs => (hf.onDelete s hs).notMem hword

/-- Of the cells in the row of a relation field, those with the lists of names may come apart. -/
theorem isOneCell_relationRow_iff (hf : f.IsTakenFrom lines) :
    (∀ cell ∈ relationRow f, IsOneCell cell) ↔
      (∀ name ∈ f.foreignKeys, IsOneCell name) ∧ ∀ name ∈ f.references, IsOneCell name := by
  have hword : ¬ isWord '|' := by decide
  have hname : IsOneCell (code f.name) :=
    isOneCell_of_notMem (notMem_code (by decide) (hf.name.notMem hword))
  have hlink : IsOneCell (pageLink f.baseType) :=
    isOneCell_of_notMem (notMem_pageLink (by decide) (hf.baseType.notMem hword))
  have hlabel : IsOneCell f.multiplicity.label := by cases f.multiplicity <;> decide
  have haction : IsOneCell (if (textOrEmpty (f.relation.bind Relation.onDelete)).isEmpty then "-"
      else textOrEmpty (f.relation.bind Relation.onDelete)) := by
    split
    · decide
    · exact isOneCell_of_notMem (notMem_textOrEmpty fun s hs => (hf.onDelete s hs).notMem hword)
  unfold relationRow
  simp only [List.forall_mem_cons, isOneCell_namesOrDash]
  constructor
  · rintro ⟨-, -, -, hkeys, hreferences, -⟩
    exact ⟨hkeys, hreferences⟩
  · rintro ⟨hkeys, hreferences⟩
    exact ⟨hname, hlink, hlabel, hkeys, hreferences, haction, List.forall_mem_nil _⟩

/-- The row of a reference is made of words and of fixed texts. -/
theorem referenceRow_notMem {m : Model} (hm : IsWordText m.name) (hf : IsWordText f.name) {c : Char}
    (hc : ¬ isWord c) (hfixed : c ∉ "[](./.md)`Has many one".toList) :
    ∀ cell ∈ referenceRow (m, f), c ∉ cell.toList := by
  unfold referenceRow
  simp only [List.forall_mem_cons]
  refine ⟨notMem_pageLink ?_ (hm.notMem hc), notMem_code ?_ (hf.notMem hc), ?_,
    List.forall_mem_nil _⟩
  · simp at hfixed ⊢
    tauto
  · rintro rfl
    exact hfixed (by decide)
  · split <;> simp at hfixed ⊢ <;> tauto

end

/-! ### Tables on the page -/

/-- The row stands on a line of its own and reads as at least as many cells as there are columns.  It
reads as one cell for each column, and as what was written, if it is readable, and only then. -/
structure RowReads (columns written : List String) (IsReadable : Prop) (row : String) : Prop where
  oneLine : '\n' ∉ row.toList
  length_le : columns.length ≤ (rowCells row).length
  length_iff : (rowCells row).length = columns.length ↔ IsReadable
  cells : IsReadable → rowCells row = written

/-- Below the heading stands a table with the columns, and its rows are those of the items. -/
structure HasTable {α : Type} (lines : List String) (title : String) (columns : List String)
    (items : List α) (written : α → List String) (IsReadable : α → Prop) : Prop where
  heading : items ≠ [] →
    ∃ rest, linesBelow title lines = rowLine columns :: ruleLine columns :: rest
  header : rowCells (rowLine columns) = columns
  rule : (rowCells (ruleLine columns)).length = columns.length
  rows : List.Forall₂ (fun item => RowReads columns (written item) (IsReadable item)) items
    (rowsBelow title lines)

theorem rowReads_rowLine {columns written : List String} (hne : written ≠ [])
    (hlength : written.length = columns.length) (hline : ∀ cell ∈ written, '\n' ∉ cell.toList)
    {IsReadable : Prop} (hreadable : (∀ cell ∈ written, IsOneCell cell) ↔ IsReadable) :
    RowReads columns written IsReadable (rowLine written) where
  oneLine := notMem_rowLine (by decide) hline
  length_le := by
    rw [length_rowCells_rowLine hne, hlength]
    exact Nat.le_add_right _ _
  length_iff := by
    rw [← hlength, length_rowCells_rowLine_iff hne, hreadable]
  cells h := rowCells_rowLine_eq hne (hreadable.2 h)

/-- The rows of a table are read one by one. -/
theorem forall₂_rowReads {α : Type} {columns : List String} {items : List α}
    {written : α → List String} {IsReadable : α → Prop}
    (h : ∀ item ∈ items, RowReads columns (written item) (IsReadable item)
      (rowLine (written item))) :
    List.Forall₂ (fun item => RowReads columns (written item) (IsReadable item)) items
      ((items.map written).map rowLine) := by
  rw [List.map_map, List.forall₂_map_right_iff, List.forall₂_same]
  exact h

section

variable {lines : List Line}

theorem rowReads_field (hlines : ∀ line ∈ lines, '\n' ∉ line) {f : Field}
    (hf : f.IsTakenFrom lines) :
    RowReads ["Field", "Type", "Required", "Unique", "Default", "Notes"] (fieldRow f)
      (IsOneCell (textOrEmpty f.defaultExpr) ∧ IsOneCell (textOrEmpty f.nativeType) ∧
        IsOneCell (textOrEmpty f.comment)) (rowLine (fieldRow f)) :=
  rowReads_rowLine (List.cons_ne_nil _ _) (by rfl) (newline_notMem_fieldRow hlines hf)
    (isOneCell_fieldRow_iff hf)

theorem rowReads_relation (hlines : ∀ line ∈ lines, '\n' ∉ line) {f : Field}
    (hf : f.IsTakenFrom lines) :
    RowReads ["Field", "Type", "Cardinality", "FK Fields", "References", "On Delete"]
      (relationRow f)
      ((∀ name ∈ f.foreignKeys, IsOneCell name) ∧ ∀ name ∈ f.references, IsOneCell name)
      (rowLine (relationRow f)) :=
  rowReads_rowLine (List.cons_ne_nil _ _) (by rfl) (newline_notMem_relationRow hlines hf)
    (isOneCell_relationRow_iff hf)

theorem rowReads_reference {m : Model} (hm : IsWordText m.name) {f : Field}
    (hf : IsWordText f.name) :
    RowReads ["Model", "Field", "Cardinality"] (referenceRow (m, f)) True
      (rowLine (referenceRow (m, f))) := by
  have hcells : ∀ cell ∈ referenceRow (m, f), IsOneCell cell := fun cell hcell =>
    isOneCell_of_notMem (referenceRow_notMem hm hf (by decide) (by decide) cell hcell)
  exact rowReads_rowLine (List.cons_ne_nil _ _) (by rfl)
    (referenceRow_notMem hm hf (by decide) (by decide)) (iff_of_true hcells trivial)

end

/-- The page of every model of a text has its tables.  A row of the fields reads as one cell for each
column if and only if the default, the native type and the comment of the field are one cell each, a
row of the relations if and only if every name in its lists is, and a row of the references always
does. -/
theorem modelPage_tables (settings : DocSettings) (text : String) :
    let s := Schema.ofText text
    ∀ m ∈ s.models,
      let page := modelPageLines settings s m
      modelPage settings s m = joined "\n" page ∧
      HasTable page "Fields" ["Field", "Type", "Required", "Unique", "Default", "Notes"]
        m.scalarFields fieldRow (fun f => IsOneCell (textOrEmpty f.defaultExpr) ∧
          IsOneCell (textOrEmpty f.nativeType) ∧ IsOneCell (textOrEmpty f.comment)) ∧
      HasTable page "Relations"
        ["Field", "Type", "Cardinality", "FK Fields", "References", "On Delete"]
        m.relationFields relationRow (fun f => (∀ name ∈ f.foreignKeys, IsOneCell name) ∧
          ∀ name ∈ f.references, IsOneCell name) ∧
      HasTable page "Referenced By" ["Model", "Field", "Cardinality"] (s.referencesTo m.name)
        referenceRow fun _ => True := by
  intro s m hm page
  have hlines : ∀ line ∈ Text.lines text.toList, '\n' ∉ line := fun line hline hmem =>
    not_isLineEnd_of_mem_lines text.toList line hline '\n' hmem (by decide)
  have htaken : ∀ m ∈ s.models, IsWordText m.name ∧
      ∀ f ∈ m.fields, f.IsTakenFrom (Text.lines text.toList) :=
    fun m => isTakenFrom_of_mem_models
  refine ⟨rfl, ⟨fun _ => ?_, by decide +kernel, by decide +kernel, ?_⟩,
    ⟨fun hfields => ?_, by decide +kernel, by decide +kernel, ?_⟩,
    ⟨fun hreferences => ?_, by decide +kernel, by decide +kernel, ?_⟩⟩
  · exact ⟨_, linesBelow_fields settings s m⟩
  · rw [rowsBelow_fields]
    refine forall₂_rowReads fun f hf => rowReads_field hlines ?_
    exact (htaken m hm).2 f (List.mem_of_mem_filter hf)
  · obtain ⟨rest, hbelow⟩ := linesBelow_relations settings s m hfields
    exact ⟨_, hbelow⟩
  · rw [rowsBelow_relations]
    refine forall₂_rowReads fun f hf => rowReads_relation hlines ?_
    exact (htaken m hm).2 f (List.mem_of_mem_filter hf)
  · obtain ⟨rest, hbelow⟩ := linesBelow_references settings s m hreferences
    exact ⟨_, hbelow⟩
  · rw [rowsBelow_references]
    refine forall₂_rowReads fun reference hreference => ?_
    obtain ⟨hmodel, -, hfield, -⟩ := Schema.mem_referencesTo.1 hreference
    obtain ⟨hname, hfields⟩ := htaken reference.1 hmodel
    exact rowReads_reference hname (hfields reference.2 (List.mem_of_mem_filter hfield)).name

/-- A bar in the comment of one field, with a backslash in front of it, and one in the comment of the
next without. -/
theorem modelPage_tables_of_bars :
    let s := Schema.ofText
      "model A \x7b\n  id Int @id // A \\| B\n  kind String // A | B\n\x7d\n"
    ∃ m ∈ s.models, ∃ first second, rowsBelow "Fields" (modelPageLines {} s m) = [first, second] ∧
      rowCells first = ["`id`", "`Int`", "✅", "🔑 PK", "", "A \\| B"] ∧
      6 < (rowCells second).length := by
  intro s
  have hfields : ∃ m ∈ s.models, m.scalarFields.map (fun f => (fieldRow f,
      decide (IsOneCell (textOrEmpty f.defaultExpr) ∧ IsOneCell (textOrEmpty f.nativeType) ∧
        IsOneCell (textOrEmpty f.comment)))) =
      [(["`id`", "`Int`", "✅", "🔑 PK", "", "A \\| B"], true),
        (["`kind`", "`String`", "✅", "", "", "A | B"], false)] := by
    decide +kernel
  obtain ⟨m, hm, hfields⟩ := hfields
  obtain ⟨-, htable, -⟩ := modelPage_tables {} _ m hm
  have hrows := htable.rows
  obtain ⟨f, others, hscalar, hf, hothers⟩ := List.map_eq_cons_iff.1 hfields
  obtain ⟨g, none, rfl, hg, hnone⟩ := List.map_eq_cons_iff.1 hothers
  obtain rfl := List.map_eq_nil_iff.1 hnone
  rw [hscalar] at hrows
  obtain ⟨first, rest, hfirst, hrest, hpage⟩ := List.forall₂_cons_left_iff.1 hrows
  obtain ⟨second, none, hsecond, hnil, rfl⟩ := List.forall₂_cons_left_iff.1 hrest
  obtain rfl := List.forall₂_nil_left_iff.1 hnil
  obtain ⟨hwritten, hreadable⟩ := Prod.mk.inj hf
  obtain ⟨-, hunreadable⟩ := Prod.mk.inj hg
  refine ⟨m, hm, first, second, hpage, ?_, ?_⟩
  · rw [hfirst.cells (of_decide_eq_true hreadable)]
    exact hwritten
  · exact lt_of_le_of_ne hsecond.length_le fun hlength =>
      of_decide_eq_false hunreadable (hsecond.length_iff.1 hlength.symm)

/-- Every row of the tables on the page reads as one cell for each column. -/
def RowsFitHeader (page : List String) : Prop :=
  (∀ row ∈ rowsBelow "Fields" page, (rowCells row).length = 6) ∧
    (∀ row ∈ rowsBelow "Relations" page, (rowCells row).length = 6) ∧
    ∀ row ∈ rowsBelow "Referenced By" page, (rowCells row).length = 3

instance : DecidablePred RowsFitHeader := fun _ => inferInstanceAs (Decidable (_ ∧ _ ∧ _))

/-- A bar in a comment adds a cell to the row. -/
theorem not_rowsFitHeader :
    let s := Schema.ofText "model A \x7b\n  id Int @id\n  kind String // A | B\n\x7d\n"
    ∃ m ∈ s.models, ¬ RowsFitHeader (modelPageLines {} s m) ∧
      rowsBelow "Fields" (modelPageLines {} s m) =
        ["| `id` | `Int` | ✅ | 🔑 PK |  |  |", "| `kind` | `String` | ✅ |  |  | A | B |"] := by
  decide +kernel

end SchemaAtlas.Docs

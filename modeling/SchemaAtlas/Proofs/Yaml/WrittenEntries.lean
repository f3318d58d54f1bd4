import SchemaAtlas.Proofs.Yaml.EntryLines
import SchemaAtlas.Yaml.Reading

/-!
# Entries that are written line by line

A block of entries has a name, a colon and a line for each entry, with a gap behind it
(`WrittenEntry`).  The name is read up to its colon, and behind the colon stands what the line says
(`blockValue_line`); a line that says nothing is refused, and with it the whole text.

Main statement: the text of a gap and some entries is the mapping of the names to what their lines
say (`ofText?_entriesText`).
-/

namespace SchemaAtlas.Yaml

open Text

/-- The signs that begin something else than a plain scalar. -/
def styleSigns : List Char :=
  ",[]\x7b\x7d#&*!|>'\"%@`".toList

section

variable {c c' : Cursor} {fuel : Nat} {found : Properties} {least : Int} {s : String}

/-! ### Nodes that are plain scalars -/

/-- What a plain scalar does not begin with. -/
theorem head_of_startsPlain (h : startsPlain false c) :
    ∃ d, c.head? = some d ∧ d ∉ styleSigns ∧ ¬ isGap (some d) ∧ ¬ c.atDash := by
  cases hrest : c.rest with
  | nil => simp [startsPlain, hrest] at h
  | cons d rest =>
    have hdash : c.atDash → d = '-' ∧ isGap rest.head? := by
      rw [Cursor.atDash, hrest]
      split
      · rename_i heq
        obtain ⟨rfl, rfl⟩ := List.cons.inj heq
        exact fun hgap => ⟨rfl, hgap⟩
      · exact fun h => absurd h Bool.false_ne_true
    refine ⟨d, by rw [Cursor.head?, hrest]; rfl, ?_⟩
    simp only [startsPlain, hrest] at h
    rcases Bool.or_eq_true_iff.1 h with h | h
    · obtain ⟨hgap, hmark⟩ := Bool.and_eq_true_iff.1 h
      have hmark : d ∉ "-?:,[]\x7b\x7d#&*!|>'\"%@`".toList := by simpa using hmark
      have hmarks : ∀ e ∈ styleSigns,
          e ∈ "-?:,[]\x7b\x7d#&*!|>'\"%@`".toList := by decide +kernel
      refine ⟨fun hd => hmark (hmarks d hd), by simpa using hgap, fun h => hmark ?_⟩
      rw [(hdash h).1]
      decide +kernel
    · obtain ⟨hgap, hmark⟩ := Bool.and_eq_true_iff.1 h
      have hmarks : ∀ e ∈ ['-', '?', ':'],
          e ∉ styleSigns ∧ ¬ isGap (some e) := by decide +kernel
      have hd : d ∈ ['-', '?', ':'] := by simpa using hmark
      exact ⟨(hmarks d hd).1, (hmarks d hd).2, fun h => by simp [(hdash h).2] at hgap⟩

theorem properties_of_startsPlain (h : startsPlain false c) :
    (properties fuel found).run c = some (found, c) := by
  obtain ⟨d, hhead, hmark, -, -⟩ := head_of_startsPlain h
  cases fuel with
  | zero => rfl
  | succ fuel =>
    simp only [properties, StateT.run_bind, StateT.run_get, pure_bind, hhead]
    split
    · rename_i heq
      obtain rfl := Option.some.inj heq
      exact absurd (by decide) hmark
    · rename_i heq
      obtain rfl := Option.some.inj heq
      exact absurd (by decide) hmark
    · rfl

/-- A plain scalar on its own is a plain node. -/
theorem inlineNode_of_plainText (hbegins : startsPlain false c) (hmarker : ¬ c.atMarker)
    (h : (plainText false least).run c = some (s, c')) :
    (inlineNode false least {} (fuel + 1)).run c = some (.plain s, c') := by
  obtain ⟨d, hhead, hmark, -, -⟩ := head_of_startsPlain hbegins
  simp only [inlineNode, StateT.run_bind, StateT.run_get, pure_bind, hmarker, Bool.false_eq_true,
    if_false, hhead]
  split
  iterate 5
    · rename_i heq
      obtain rfl := Option.some.inj heq
      exact absurd (by decide) hmark
  · simp only [StateT.run_bind, h]
    rfl

/-- What begins as a plain scalar is a node on its line, or the mapping whose first name it is. -/
theorem propertiedNode_of_startsPlain (h : startsPlain false c) (indent : Int)
    (dashesAt : Option Nat) : (propertiedNode indent dashesAt (fuel + 2)).run c =
      (inlineOrMapping indent c {} fuel).run c := by
  obtain ⟨d, hhead, hmark, -, hdash⟩ := head_of_startsPlain h
  have hblock : ∀ e ∈ ['|', '>'], c.head? ≠ some e := by
    have hmarks : ∀ e ∈ ['|', '>'], e ∈ styleSigns := by decide +kernel
    intro e he heq
    obtain rfl := Option.some.inj (hhead.symm.trans heq)
    exact hmark (hmarks d he)
  simp only [List.forall_mem_cons] at hblock
  have hpresent : ({} : Properties).isPresent = false := rfl
  rw [propertiedNode]
  simp only [StateT.run_bind, StateT.run_get, pure_bind, properties_of_startsPlain h,
    Option.bind_eq_bind, Option.bind_some, hpresent, Bool.not_false, if_true]
  rw [blockNode]
  simp [hdash, hblock]

theorem remember_of_none {node : Node} : (remember {} node).run c = some (node, c) := rfl

theorem atColon_of_head? (h : c.head? ≠ some ':') {inFlow : Bool} {start : Cursor} :
    (atColon inFlow start).run c = some (false, c) := by
  simp only [atColon, StateT.run_bind, StateT.run_get, pure_bind]
  split
  · rename_i heq
    rw [Cursor.head?, heq] at h
    exact absurd rfl h
  · rfl

/-- A colon where no name can begin is refused. -/
theorem atColon_refused {start : Cursor} {rest : List Char} (hc : c.rest = ':' :: rest)
    (hgap : isGap rest.head?) (hallowed : start.nameAllowed = false) :
    (atColon false start).run c = none := by
  simp only [atColon, StateT.run_bind, StateT.run_get, pure_bind]
  split
  · rename_i heq
    obtain ⟨-, rfl⟩ := List.cons.inj (heq.symm.trans hc)
    simp only [hgap, Bool.not_true, Bool.and_false, Bool.false_eq_true, if_false, hallowed]
    rfl
  · rename_i hne
    exact absurd hc (hne _)

/-- A name that has been read in front of a colon is the name of an entry. -/
theorem atColon_of_name {start : Cursor} {rest : List Char} (hc : c.rest = ':' :: ' ' :: rest)
    (hline : start.line = c.line) (hlength : start.rest.length ≤ c.rest.length + 1024)
    (hallowed : start.nameAllowed) : (atColon false start).run c = some (true, c) := by
  simp only [atColon, StateT.run_bind, StateT.run_get, pure_bind]
  split
  · rename_i heq
    obtain ⟨-, rfl⟩ := List.cons.inj (heq.symm.trans hc)
    have hgap : isGap (' ' :: rest).head? := rfl
    simp only [hgap, Bool.not_true, Bool.and_false, Bool.false_eq_true, if_false, hline, hallowed,
      beq_self_eq_true, Bool.true_and, Bool.and_true, decide_eq_true_eq, hlength, if_true]
    rfl
  · rename_i hne
    exact absurd hc (hne _)

end

/-! ### Lines of entries -/

section

variable {c : Cursor} {fuel : Nat} {line rest : List Char} {gap : List (List Char)}

/-- What a line says is a node, and a line that says nothing is refused. -/
theorem propertiedNode_line {indent : Nat} (hline : IsScalarLine line)
    (hgap : ∀ line ∈ gap, IsGapLine line) (hrest : BeginsName rest) (hcolumn : indent < c.column)
    (hallowed : c.nameAllowed = false) (hlabels : c.labels = [])
    (hc : c.rest = line.dropWhile (· == ' ') ++ '\n' :: (gapText gap ++ rest))
    (dashesAt : Option Nat) :
    (propertiedNode indent dashesAt (fuel + 4)).run c = (lineScalar? line).map fun text =>
      (.plain (.ofList text), Cursor.lineStart rest (c.line + 1 + gap.length)) := by
  have hnil : line.dropWhile (· == ' ') ≠ [] := fun hnil => by
    have hbegins := hline.begins
    rw [hnil] at hbegins
    cases hbegins
  have hbegins : startsPlain false c := (startsPlain_append hc hnil rfl).trans hline.begins
  have hmarker : ¬ c.atMarker := by
    have hcolumn : c.column ≠ 0 := by omega
    simp [Cursor.atMarker, hcolumn]
  obtain ⟨text, next, hread, hend⟩ := @exists_plainText_line line rest (indent + 1) c gap hline hgap
    hrest (by omega) (by omega) hlabels hc
  have hnode := @inlineNode_of_plainText c next fuel (indent + 1) _ hbegins hmarker hread
  rw [propertiedNode_of_startsPlain hbegins, inlineOrMapping]
  simp only [StateT.run_bind, hnode, Option.bind_eq_bind, Option.bind_some, passGap,
    StateT.run_modify, pure_bind]
  rcases hend with ⟨hsaid, hskip⟩ | ⟨hsaid, more, hnext, hmore⟩
  · have hcolon : (Cursor.lineStart rest (c.line + 1 + gap.length)).head? ≠ some ':' := fun hd =>
      ne_of_isNameChar (hrest ':' hd) rfl rfl
    rw [hskip, atColon_of_head? hcolon, hsaid]
    rfl
  · have hskip : next.skipGap false = next := by
      refine skipGap_of_beginsText fun d hd => ?_
      rw [hnext] at hd
      obtain rfl : ':' = d := Option.some.inj hd
      decide
    rw [hskip, atColon_refused hnext hmore hallowed, hsaid]
    rfl

/-- Behind a colon stands what the line of an entry says. -/
theorem blockValue_line (hline : IsScalarLine line) (hgap : ∀ line ∈ gap, IsGapLine line)
    (hrest : BeginsName rest) (hlabels : c.labels = [])
    (hc : c.rest = ':' :: ' ' :: (line ++ '\n' :: (gapText gap ++ rest))) :
    (blockValue 0 (fuel + 5)).run c = (lineScalar? line).map fun text =>
      (.plain (.ofList text), Cursor.lineStart rest (c.line + 1 + gap.length)) := by
  have hnext := Cursor.next_cons hc (by decide)
  obtain ⟨place, hskip, hplace, hcolumn, hplaceLine, hallowed, hempty⟩ : ∃ place : Cursor,
      Cursor.skipGap false { c.next with nameAllowed := false } = place ∧
        place.rest = line.dropWhile (· == ' ') ++ '\n' :: (gapText gap ++ rest) ∧
        0 < place.column ∧ place.line = c.line ∧ place.nameAllowed = false ∧ place.labels = [] := by
    have hsplit : ' ' :: (line ++ '\n' :: (gapText gap ++ rest)) =
        (' ' :: line.takeWhile (· == ' ')) ++
          (line.dropWhile (· == ' ') ++ '\n' :: (gapText gap ++ rest)) := by
      rw [List.cons_append, ← List.append_assoc, List.takeWhile_append_dropWhile]
    have hblanks : ∀ d ∈ ' ' :: line.takeWhile (· == ' '), d = ' ' :=
      List.forall_mem_cons.2 ⟨rfl, fun d hd => by simpa using List.mem_takeWhile_imp hd⟩
    rw [hnext, hsplit]
    refine ⟨_, skipGap_blanks hblanks rfl (hline.beginsText _), rfl, ?_, rfl, rfl, hlabels⟩
    exact Nat.lt_of_lt_of_le (Nat.succ_pos c.column) (Nat.le_add_right _ _)
  have hend : ¬ place.atEnd := by
    have hne : place.rest ≠ [] := by simp [hplace]
    simp [Cursor.atEnd, Cursor.atMarker, hne, Nat.ne_of_gt hcolumn]
  rw [blockValue]
  simp only [StateT.run_bind, StateT.run_modify, pure_bind, passGap, StateT.run_get, hskip]
  rw [if_neg hend, if_pos hcolumn, ← hplaceLine]
  exact propertiedNode_line hline hgap hrest hcolumn hallowed hempty hplace _

end

/-! ### Entries -/

/-- An entry of a block and the gap behind it. -/
structure WrittenEntry where
  name : List Char
  line : List Char
  gap : List (List Char)

namespace WrittenEntry

/-- The text of the entry and its gap. -/
def text (e : WrittenEntry) : List Char :=
  e.name ++ ':' :: ' ' :: (e.line ++ '\n' :: gapText e.gap)

/-- The nodes of the entry, if its line says something. -/
def nodes? (e : WrittenEntry) : Option (Node × Node) :=
  (lineScalar? e.line).map fun text => (.plain (.ofList e.name), .plain (.ofList text))

/-- The name can be read, the line begins as a scalar, and the gap is one. -/
structure IsWellFormed (e : WrittenEntry) : Prop where
  name : IsEntryName e.name
  line : IsScalarLine e.line
  gap : ∀ line ∈ e.gap, IsGapLine line

end WrittenEntry

section

variable {c : Cursor} {e : WrittenEntry} {es : List WrittenEntry} {n fuel : Nat}
  {gap : List (List Char)}

theorem flatMap_text_cons (e : WrittenEntry) (es : List WrittenEntry) :
    (e :: es).flatMap WrittenEntry.text = e.name ++ ':' :: ' ' ::
      (e.line ++ '\n' :: (gapText e.gap ++ es.flatMap WrittenEntry.text)) := by
  simp [WrittenEntry.text]

theorem flatMap_text_ne_nil : (e :: es).flatMap WrittenEntry.text ≠ [] := by
  rw [flatMap_text_cons]
  simp

theorem beginsName_entries (h : ∀ e ∈ es, e.IsWellFormed) :
    BeginsName (es.flatMap WrittenEntry.text) := by
  cases es with
  | nil => exact nofun
  | cons e es =>
    rw [flatMap_text_cons]
    exact (h e List.mem_cons_self).name.beginsName _

theorem startsPlain_of_beginsName (h : BeginsName c.rest) (hne : c.rest ≠ []) :
    startsPlain false c := by
  obtain ⟨d, more, hcons⟩ := List.exists_cons_of_ne_nil hne
  have hhead : c.rest.head? = some d := by rw [hcons]; rfl
  exact startsPlain_of_isNameChar (h d hhead) hhead

theorem startsPlain_text (hes : ∀ f ∈ e :: es, f.IsWellFormed) :
    startsPlain false (Cursor.lineStart ((e :: es).flatMap WrittenEntry.text) n) :=
  startsPlain_of_beginsName (beginsName_entries hes) flatMap_text_ne_nil

theorem not_atEnd_text (hes : ∀ f ∈ e :: es, f.IsWellFormed) :
    (Cursor.lineStart ((e :: es).flatMap WrittenEntry.text) n).atEnd = false := by
  have hmarker := (beginsName_entries hes).not_atMarker
    (c := Cursor.lineStart ((e :: es).flatMap WrittenEntry.text) n) rfl
  refine Bool.or_eq_false_iff.2 ⟨?_, by simpa using hmarker⟩
  exact List.isEmpty_eq_false_iff.2 flatMap_text_ne_nil

/-- The name of an entry is read up to its colon, which makes it one. -/
theorem exists_inlineNode_name {name behind : List Char} (hname : IsEntryName name)
    (hc : c.rest = name ++ ':' :: ' ' :: behind) (hallowed : c.nameAllowed) (least : Int) :
    ∃ place, (inlineNode false least {} (fuel + 1)).run c = some (.plain (.ofList name), place) ∧
      place.skipGap false = place ∧ (atColon false c).run place = some (true, place) ∧
      place.rest = ':' :: ' ' :: behind ∧ place.line = c.line ∧ place.labels = c.labels := by
  have hbegins : BeginsName c.rest := by
    rw [hc]
    exact hname.beginsName _
  have hne : c.rest ≠ [] := by simp [hc]
  refine ⟨_, inlineNode_of_plainText (startsPlain_of_beginsName hbegins hne)
    (hbegins.not_atMarker rfl) (plainText_name hname hc), skipGap_of_beginsText ?_,
    atColon_of_name rfl rfl ?_ hallowed, rfl, rfl, rfl⟩
  · intro d hd
    obtain rfl : ':' = d := Option.some.inj hd
    decide
  · have hlength := hname.length_le
    rw [hc, List.length_append]
    show _ ≤ (':' :: ' ' :: behind).length + 1024
    omega

/-- The first of some entries is read: its name, its colon and what its line says. -/
theorem exists_entry_text (hes : ∀ f ∈ e :: es, f.IsWellFormed) (least : Int) :
    ∃ place, (inlineNode false least {} (fuel + 5)).run
        (Cursor.lineStart ((e :: es).flatMap WrittenEntry.text) n) =
          some (.plain (.ofList e.name), place) ∧
      place.skipGap false = place ∧
      (atColon false (Cursor.lineStart ((e :: es).flatMap WrittenEntry.text) n)).run place =
        some (true, place) ∧
      (blockValue 0 (fuel + 5)).run place = (lineScalar? e.line).map fun text =>
        (.plain (.ofList text),
          Cursor.lineStart (es.flatMap WrittenEntry.text) (n + 1 + e.gap.length)) := by
  obtain ⟨he, hmore⟩ := List.forall_mem_cons.1 hes
  obtain ⟨place, hname, hskip, hcolon, hbehind, hline, hlabels⟩ :=
    @exists_inlineNode_name (Cursor.lineStart ((e :: es).flatMap WrittenEntry.text) n) (fuel + 4)
      e.name _ he.name (flatMap_text_cons e es) rfl least
  refine ⟨place, hname, hskip, hcolon, ?_⟩
  rw [blockValue_line he.line he.gap (beginsName_entries hmore) hlabels hbehind, hline]
  rfl

/-- The entries of a block are read one after another, unless a line says nothing. -/
theorem blockEntries_text (hes : ∀ e ∈ es, e.IsWellFormed) (hfuel : es.length + 6 ≤ fuel) :
    ∃ m, (blockEntries 0 fuel).run (Cursor.lineStart (es.flatMap WrittenEntry.text) n) =
      (es.mapM WrittenEntry.nodes?).map fun nodes => (nodes, Cursor.lineStart [] m) := by
  induction es generalizing n fuel with
  | nil =>
    obtain ⟨fuel, rfl⟩ : ∃ k, fuel = k + 1 := ⟨fuel - 1, by omega⟩
    refine ⟨n, ?_⟩
    rw [blockEntries]
    rfl
  | cons e es ih =>
    obtain ⟨fuel, rfl⟩ : ∃ k, fuel = k + 6 := ⟨fuel - 6, by omega⟩
    obtain ⟨place, hname, hskip, hcolon, hvalue⟩ :=
      @exists_entry_text e es n fuel hes (((0 : Nat) : Int) + 1)
    obtain ⟨m, hentries⟩ := @ih (n + 1 + e.gap.length) (fuel + 5)
      (List.forall_mem_cons.1 hes).2 (by simp at hfuel; omega)
    have hplain := @startsPlain_text e es n hes
    have hend := @not_atEnd_text e es n hes
    have hgap : (Cursor.lineStart ((e :: es).flatMap WrittenEntry.text) n).skipGap false =
        Cursor.lineStart ((e :: es).flatMap WrittenEntry.text) n :=
      skipGap_of_beginsText (beginsName_entries hes).beginsText
    obtain ⟨d, -, -, -, hdash⟩ := head_of_startsPlain hplain
    refine ⟨m, ?_⟩
    generalize hstart : Cursor.lineStart ((e :: es).flatMap WrittenEntry.text) n = start at *
    have hcolumn : start.column = 0 := by rw [← hstart]; rfl
    have hallowed : start.nameAllowed = true := by rw [← hstart]; rfl
    have hend : (start.atEnd || decide (start.column < 0)) = false := by simp [hend]
    have hplace : (decide (0 < start.column) || !start.nameAllowed || start.atDash) = false := by
      simp [hcolumn, hallowed, hdash]
    rw [blockEntries]
    simp only [StateT.run_bind, StateT.run_modify, pure_bind, passGap, StateT.run_get, hgap, hend,
      hplace, Bool.false_eq_true, if_false, properties_of_startsPlain hplain, Option.bind_eq_bind,
      Option.bind_some, hname, hskip, hcolon, if_true, remember_of_none, hvalue]
    rw [List.mapM_cons, WrittenEntry.nodes?]
    cases lineScalar? e.line with
    | none => rfl
    | some text =>
      simp only [Option.map_some, Option.bind_some, hentries]
      cases es.mapM WrittenEntry.nodes? <;> rfl

/-- The first name makes the node the mapping of all entries. -/
theorem propertiedNode_text (hes : ∀ f ∈ e :: es, f.IsWellFormed)
    (hfuel : es.length + 9 ≤ fuel) (dashesAt : Option Nat) :
    ∃ m, (propertiedNode (-1) dashesAt fuel).run
        (Cursor.lineStart ((e :: es).flatMap WrittenEntry.text) n) =
      ((e :: es).mapM WrittenEntry.nodes?).map fun nodes =>
        (.mapping nodes, Cursor.lineStart [] m) := by
  obtain ⟨fuel, rfl⟩ : ∃ k, fuel = k + 8 := ⟨fuel - 8, by omega⟩
  obtain ⟨place, hname, hskip, hcolon, hvalue⟩ := @exists_entry_text e es n fuel hes ((-1) + 1)
  obtain ⟨m, hentries⟩ := @blockEntries_text es (n + 1 + e.gap.length) (fuel + 5)
    (List.forall_mem_cons.1 hes).2 (by omega)
  refine ⟨m, ?_⟩
  rw [propertiedNode_of_startsPlain (startsPlain_text hes)]
  generalize hstart : Cursor.lineStart ((e :: es).flatMap WrittenEntry.text) n = start at *
  have hcolumn : start.column = 0 := by rw [← hstart]; rfl
  rw [inlineOrMapping]
  simp only [StateT.run_bind, StateT.run_modify, pure_bind, passGap, Option.bind_eq_bind,
    Option.bind_some, hname, hskip, hcolon, if_true, remember_of_none, hcolumn, hvalue]
  rw [List.mapM_cons, WrittenEntry.nodes?]
  cases lineScalar? e.line with
  | none => rfl
  | some text =>
    simp only [Option.map_some, Option.bind_some, hentries]
    cases es.mapM WrittenEntry.nodes? <;> rfl

/-! ### Documents -/

/-- The node of a document with entries, which is empty without any. -/
def nodeOf (nodes : List (Node × Node)) : Node :=
  if nodes.isEmpty then .plain "" else .mapping nodes

/-- What stands at the start of the text is no mark of its encoding. -/
theorem head?_entriesText (hgap : ∀ line ∈ gap, IsGapLine line) (hes : ∀ e ∈ es, e.IsWellFormed) :
    (gapText gap ++ es.flatMap WrittenEntry.text).head? ≠ some '\uFEFF' := by
  cases gap with
  | nil => exact fun hd => ne_of_isNameChar (beginsName_entries hes _ hd) rfl rfl
  | cons line gap =>
    obtain rfl | hcomment := (hgap line List.mem_cons_self).1
    · simp [gapText]
    · simp [gapText, List.head?_append, hcomment]

/-- A document of a gap and some entries is read to its end, unless a line says nothing. -/
theorem document_text (hgap : ∀ line ∈ gap, IsGapLine line) (hes : ∀ e ∈ es, e.IsWellFormed)
    (hfuel : es.length + 9 ≤ fuel) :
    ∃ m, (document fuel).run (Cursor.lineStart (gapText gap ++ es.flatMap WrittenEntry.text) 0) =
      (es.mapM WrittenEntry.nodes?).map fun nodes => (nodeOf nodes, Cursor.lineStart [] m) := by
  have hskip := @skipGap_gapText _ gap 0 hgap (beginsName_entries hes).beginsText
  have hmark : (Cursor.lineStart (gapText gap ++ es.flatMap WrittenEntry.text) 0).head? ≠
      some '\uFEFF' := head?_entriesText hgap hes
  have hmarker : ¬ (Cursor.lineStart (es.flatMap WrittenEntry.text) (0 + gap.length)).atMarker :=
    (beginsName_entries hes).not_atMarker rfl
  generalize Cursor.lineStart (gapText gap ++ es.flatMap WrittenEntry.text) 0 = begin at *
  rw [document]
  simp only [StateT.run_bind, StateT.run_modify, pure_bind, passGap, StateT.run_get, beq_iff_eq,
    hmark, if_false, hskip, hmarker, Bool.false_eq_true, Bool.false_and]
  cases es with
  | nil => exact ⟨0 + gap.length, rfl⟩
  | cons e es =>
    obtain ⟨m, hnode⟩ := @propertiedNode_text e es (0 + gap.length) fuel hes
      (by simp at hfuel; omega) none
    refine ⟨m, ?_⟩
    simp only [not_atEnd_text hes, Bool.false_eq_true, if_false, StateT.run_bind, hnode]
    rw [List.mapM_cons]
    cases e.nodes? with
    | none => rfl
    | some node => cases es.mapM WrittenEntry.nodes? <;> rfl

end

/-! ### Texts -/

/-- A character that a text may hold and that is no line end of another kind. -/
def IsTextChar (d : Char) : Prop :=
  isAllowed d ∧ d ≠ '\r' ∧ d ≠ '\u0085'

instance : DecidablePred IsTextChar :=
  fun _ => inferInstanceAs (Decidable (_ ∧ _))

theorem isTextChar_of_isNameChar {d : Char} (h : isNameChar d) : IsTextChar d := by
  refine ⟨?_, ne_of_isNameChar h rfl, ne_of_isNameChar h rfl⟩
  rcases Bool.or_eq_true_iff.1 h with hlower | hline
  · have hlower : (97 ≤ d.val && d.val ≤ 122) = true := hlower
    have hbounds : 97 ≤ d.toNat ∧ d.toNat ≤ 122 := by
      simpa [UInt32.le_iff_toNat_le] using hlower
    simp only [isAllowed, Bool.or_eq_true, Bool.and_eq_true, decide_eq_true_eq]
    omega
  · obtain rfl : d = '_' := by simpa using hline
    rfl

theorem unifyNewlines_eq_self {cs : List Char} (h : ∀ d ∈ cs, d ≠ '\r') :
    unifyNewlines cs = cs := by
  fun_induction unifyNewlines cs with
  | case1 => rfl
  | case2 rest ih => exact absurd rfl (h '\r' List.mem_cons_self)
  | case3 d rest hne ih =>
    obtain ⟨hd, hrest⟩ := List.forall_mem_cons.1 h
    rw [if_neg hd, ih hrest]

theorem withLineFeeds_eq_self {cs : List Char} (h : ∀ d ∈ cs, IsTextChar d) :
    withLineFeeds cs = cs := by
  rw [withLineFeeds, unifyNewlines_eq_self fun d hd => (h d hd).2.1]
  refine (List.map_congr_left fun d hd => ?_).trans (List.map_id cs)
  simp [(h d hd).2.2]

section

variable {es : List WrittenEntry} {gap : List (List Char)}

theorem length_le_length_flatMap_text (es : List WrittenEntry) :
    es.length ≤ (es.flatMap WrittenEntry.text).length := by
  induction es with
  | nil => exact Nat.le_refl 0
  | cons e es ih =>
    rw [flatMap_text_cons]
    simp only [List.length_append, List.length_cons]
    omega

/-- The text of a gap and some entries is read as the node of what their lines say. -/
theorem ofText?_entriesText (hgap : ∀ line ∈ gap, IsGapLine line) (hes : ∀ e ∈ es, e.IsWellFormed)
    (hchars : ∀ d ∈ gapText gap ++ es.flatMap WrittenEntry.text, IsTextChar d) :
    Node.ofText? (.ofList (gapText gap ++ es.flatMap WrittenEntry.text)) =
      (es.mapM WrittenEntry.nodes?).map nodeOf := by
  have hlength := length_le_length_flatMap_text es
  have hallowed : (gapText gap ++ es.flatMap WrittenEntry.text).all isAllowed :=
    List.all_eq_true.2 fun d hd => (hchars d hd).1
  obtain ⟨m, hread⟩ := @document_text es
    (4 * (gapText gap ++ es.flatMap WrittenEntry.text).length + 16) gap hgap hes
    (by rw [List.length_append]; omega)
  rw [Node.ofText?, String.toList_ofList, if_pos hallowed, withLineFeeds_eq_self hchars]
  show ((document _).run (Cursor.lineStart _ 0)).bind _ = _
  rw [hread]
  cases es.mapM WrittenEntry.nodes? <;> rfl

end

end SchemaAtlas.Yaml

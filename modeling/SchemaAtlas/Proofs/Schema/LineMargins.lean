import Mathlib.Logic.Relation
import SchemaAtlas.Proofs.Schema.BlockBoundaries
import SchemaAtlas.Proofs.Text.LineEnds

/-!
# Blanks at the ends of lines

Whatever reads a line reads it without the blanks at its ends, and no blank is a brace, so lines that
are the same without these blanks hold the same schema (`Schema.ofLines_congr`).

Main statement: a text keeps its schema when spaces and tabs are put at the ends of lines or taken
away, when its line feeds are written as other separators, and with a line feed at its end
(`Schema.ofText_layout`).  Only a carriage return and a line feed with nothing but blanks between them
must not come together: they would be one separator, and one line would be missing
(`Schema.ofText_joined_separator`).
-/

namespace SchemaAtlas

open Text

/-- The lines are the same without the blanks at their ends. -/
def SameText (line line' : Line) : Prop :=
  trim line' = trim line

/-! ### One line -/

/-- Trimming takes away blanks only. -/
theorem count_trim {c : Char} (hc : ¬ isBlank c) (line : Line) :
    (trim line).count c = line.count c := by
  have hblank : ∀ {cs : List Char}, (∀ d ∈ cs, isBlank d) → cs.count c = 0 :=
    fun h => List.count_eq_zero.2 fun hmem => hc (h c hmem)
  obtain ⟨blanks, hright, hblanks⟩ := exists_eq_trimRight_append (trimLeft line)
  have hleft : line = line.takeWhile isBlank ++ (trim line ++ blanks) := by
    rw [← show trimLeft line = trim line ++ blanks from hright]
    exact List.takeWhile_append_dropWhile.symm
  conv_rhs => rw [hleft]
  rw [List.count_append, List.count_append, hblank hblanks,
    hblank fun d hd => List.mem_takeWhile_imp hd]
  omega

namespace SameText

variable {line line' : Line}

theorem count_eq (h : SameText line line') {c : Char} (hc : ¬ isBlank c) :
    line'.count c = line.count c := by
  rw [← count_trim hc, h, count_trim hc]

theorem sameOutline (h : SameText line line') : SameOutline line line' := by
  have hopen := h.count_eq (c := '\x7b') (by decide)
  have hclose := h.count_eq (c := '\x7d') (by decide)
  have hbalance : Block.balance line' = Block.balance line := by
    rw [Block.balance, Block.balance, hopen, hclose]
  have hcontains : line'.contains '\x7b' = line.contains '\x7b' := by
    rw [Bool.eq_iff_iff, List.contains_iff_mem, List.contains_iff_mem, ← List.count_pos_iff,
      ← List.count_pos_iff, hopen]
  refine ⟨?_, hbalance, fun _ => ?_⟩
  · rw [Header.read?, Header.read?, h]
  · rw [Block.headerDepth, Block.headerDepth, hcontains, hbalance]

theorem bodyLine_eq (h : SameText line line') : BodyLine.ofLine line' = BodyLine.ofLine line := by
  rw [BodyLine.ofLine, BodyLine.ofLine, h]

theorem valueLine?_eq (h : SameText line line') : valueLine? line' = valueLine? line := by
  rw [valueLine?, valueLine?, h]

end SameText

/-! ### All lines -/

section

variable {body body' : List Line} (h : List.Forall₂ SameText body body')
include h

theorem fieldsFrom_congr (enums : List String) (pending : Option String) (number : Nat) :
    fieldsFrom enums pending number body' = fieldsFrom enums pending number body := by
  induction h generalizing pending number with
  | nil => rfl
  | cons hline _ ih => simp only [fieldsFrom, hline.bodyLine_eq, ih]

theorem filterMap_congr {α : Type} {read? : Line → Option α}
    (hread : ∀ line line', SameText line line' → read? line' = read? line) :
    body'.filterMap read? = body.filterMap read? :=
  filterMap_eq_of_forall₂ hread h

end

theorem PlacedBlock.Matches.declaration_eq {p p' : PlacedBlock} (h : p.Matches SameText p')
    (enums : List String) : p'.declaration enums = p.declaration enums := by
  have hattributes : ∀ word, p'.block.body.filterMap (attributeLine? word) =
      p.block.body.filterMap (attributeLine? word) :=
    fun word => filterMap_congr h.body fun line line' hline => by
      rw [attributeLine?, attributeLine?, hline.bodyLine_eq]
  have hcomments : p'.block.body.filterMap commentLine? = p.block.body.filterMap commentLine? :=
    filterMap_congr h.body fun line line' hline => by
      rw [commentLine?, commentLine?, hline.bodyLine_eq]
  have hvalues : p'.block.body.filterMap valueLine? = p.block.body.filterMap valueLine? :=
    filterMap_congr h.body fun line line' hline => hline.valueLine?_eq
  simp only [PlacedBlock.declaration, Declaration.ofBlock, Model.ofBlock, Enumeration.ofBlock,
    BlockAttribute.ofBody, fieldsFrom_congr h.body, hattributes, hcomments, hvalues, h.number,
    h.header, h.extent]

namespace Schema

/-- Lines that are the same without the blanks at their ends hold the same schema. -/
theorem ofLines_congr {ls ls' : List Line} (h : ls'.map trim = ls.map trim) :
    ofLines ls' = ofLines ls := by
  have hsame : List.Forall₂ SameText ls ls' := by
    have heq : List.Forall₂ (· = ·) (ls'.map trim) (ls.map trim) := by
      rw [List.forall₂_eq_eq_eq]
      exact h
    rw [List.forall₂_map_left_iff, List.forall₂_map_right_iff] at heq
    exact heq.flip
  have henums : declaredEnumerations ls' = declaredEnumerations ls := by
    rw [declaredEnumerations, declaredEnumerations, filterMap_congr hsame fun line line' hline => by
      rw [enumerationHeader?, enumerationHeader?, hline.sameOutline.header]]
  have hplaced := forall₂_placedFrom (fun _ _ hline => hline.sameOutline) hsame 1 0
  have hdeclared : ∀ enums, (placedFrom 1 0 ls').map (PlacedBlock.declaration enums) =
      (placedFrom 1 0 ls).map (PlacedBlock.declaration enums) := by
    intro enums
    rw [← List.forall₂_eq_eq_eq, List.forall₂_map_left_iff, List.forall₂_map_right_iff]
    exact (hplaced.imp fun p p' hp => (hp.declaration_eq enums)).flip
  simp only [ofLines, declarationsFrom_eq_map, henums, hdeclared]

end Schema

/-! ### Texts -/

/-- The second text has one more space or tab at the beginning or the end of a line. -/
inductive PadsLine : List Char → List Char → Prop
  | pad {front back : List Char} {c : Char} (hc : c = ' ' ∨ c = '\t')
    (hplace : EndsLine front ∨ StartsWithLineEnd back) (hwhole : ¬ SplitsSeparator front back) :
    PadsLine (front ++ back) (front ++ c :: back)

namespace Schema

/-- One space or tab more leaves the schema as it is. -/
theorem ofLines_padsLine {cs cs' : List Char} (h : PadsLine cs cs') :
    ofLines (lines cs') = ofLines (lines cs) := by
  cases h with
  | @pad front back c hc hplace hwhole =>
    have hchar : isBlank c ∧ ¬ isLineEnd c := by
      obtain rfl | rfl := hc <;> decide
    obtain hsame | hmore := map_trim_lines_insert hchar.1 hchar.2 hplace hwhole
    · exact ofLines_congr hsame
    · have hlast : (lines (front ++ c :: back)).map trim =
          (lines (front ++ back) ++ [[]]).map trim := by
        rw [hmore, List.map_append]
        rfl
      rw [ofLines_congr hlast, ofLines_concat_nil]

/-- Any number of spaces and tabs more or less leaves the schema as it is. -/
theorem ofLines_eqvGen {cs cs' : List Char} (h : Relation.EqvGen PadsLine cs cs') :
    ofLines (lines cs') = ofLines (lines cs) := by
  induction h with
  | rel cs cs' hpads => exact ofLines_padsLine hpads
  | refl cs => rfl
  | symm cs cs' _ ih => exact ih.symm
  | trans cs ds es _ _ hfirst hsecond => exact hsecond.trans hfirst

theorem ofLines_concat_newline (cs : List Char) :
    ofLines (lines (cs ++ ['\n'])) = ofLines (lines cs) := by
  obtain hsame | hmore := lines_concat_newline cs
  · rw [hsame]
  · rw [hmore, ofLines_concat_nil]

/-- Spaces and tabs at the ends of lines, the separators between lines and a line feed at the end are
no part of a schema. -/
theorem ofText_layout (text : String) :
    (∀ cs, Relation.EqvGen PadsLine text.toList cs → ofText (.ofList cs) = ofText text) ∧
      ((∀ c ∈ text.toList, isLineEnd c → c = '\n') → ∀ separator ∈ ["\r\n", "\r"],
        ofText (.ofList (separatedBy separator text.toList)) = ofText text) ∧
      ofText (text ++ "\n") = ofText text := by
  refine ⟨fun cs h => ?_, fun h separator hseparator => ?_, ?_⟩
  · simpa only [ofText, String.toList_ofList] using ofLines_eqvGen h
  · simp only [ofText, String.toList_ofList, lines_separatedBy hseparator h]
  · rw [ofText, String.toList_append]
    exact ofLines_concat_newline text.toList

/-- A field with more blanks in front of it and fewer behind it, and carriage returns. -/
theorem ofText_layout_field :
    let text := "model A \x7b\n  id Int \n\x7d"
    let padded := "model A \x7b\n\t  id Int\n\x7d"
    let s : Schema := ⟨[{ name := "A", fields := [⟨"id", "Int", .scalar, false, false, false, false,
      none, none, none, none, 2⟩], line := 1, endLine := 3 }], []⟩
    ofText padded = s ∧ ofText (.ofList (separatedBy "\r" text.toList)) = s ∧
      ofText (text ++ "\n") = s := by
  intro text padded s
  obtain ⟨hpads, hseparated, hended⟩ := ofText_layout text
  have hs : ofText text = s := by decide +kernel
  have hfront : text.toList = "model A \x7b\n".toList ++ "  id Int \n\x7d".toList := by
    decide +kernel
  have hback : padded.toList = "model A \x7b\n\t  id Int".toList ++ "\n\x7d".toList := by
    decide +kernel
  have hboth : "model A \x7b\n".toList ++ '\t' :: "  id Int \n\x7d".toList =
      "model A \x7b\n\t  id Int".toList ++ ' ' :: "\n\x7d".toList := by
    decide +kernel
  have htab : PadsLine ("model A \x7b\n".toList ++ "  id Int \n\x7d".toList)
      ("model A \x7b\n".toList ++ '\t' :: "  id Int \n\x7d".toList) :=
    .pad (.inr rfl) (.inl (by decide)) (by decide)
  have hspace : PadsLine ("model A \x7b\n\t  id Int".toList ++ "\n\x7d".toList)
      ("model A \x7b\n\t  id Int".toList ++ ' ' :: "\n\x7d".toList) :=
    .pad (.inl rfl) (.inr (by decide)) (by decide)
  rw [← hfront, hboth] at htab
  rw [← hback] at hspace
  have hpadded := hpads padded.toList (.trans _ _ _ (.rel _ _ htab) (.symm _ _ (.rel _ _ hspace)))
  rw [String.ofList_toList] at hpadded
  have hfeeds : ∀ c ∈ text.toList, isLineEnd c → c = '\n' := by
    have hall : text.toList.all fun c => !isLineEnd c || c == '\n' := by decide +kernel
    intro c hc hend
    simpa [hend] using List.all_eq_true.1 hall c hc
  exact ⟨hpadded.trans hs, (hseparated hfeeds "\r" (by decide)).trans hs, hended.trans hs⟩

/-- If the only blank between a carriage return and a line feed is taken away, a line is missing. -/
theorem ofText_joined_separator :
    let front := ['\r']
    let back := "\nmodel A \x7b\n\x7d\n".toList
    (EndsLine front ∧ StartsWithLineEnd back) ∧
      (ofText (.ofList (front ++ ' ' :: back))).models.map Model.line = [3] ∧
      (ofText (.ofList (front ++ back))).models.map Model.line = [2] := by
  decide +kernel

end Schema

end SchemaAtlas

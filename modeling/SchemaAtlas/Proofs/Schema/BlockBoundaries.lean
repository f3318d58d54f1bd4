import Mathlib.Data.List.Forall2
import Mathlib.Data.Option.Basic
import SchemaAtlas.Proofs.Schema.LineState
import SchemaAtlas.Proofs.Schema.Placement
import SchemaAtlas.Proofs.Text.Words

/-!
# Where blocks begin and end

Of a line, only three things decide where blocks stand: its header, if it is one, its brace balance,
and for a header the depth behind it.  Lines that agree in them, line by line, hold blocks at the
same places (`forall₂_placedFrom`).

Main statement: to exchange the text of a comment or of a string literal for another one with the
same balance of braces leaves every model and enumeration where it is (`outline_ofText_exchange`).
Braces are counted in comments and string literals too, so without that condition it does not
(`outline_changes_with_brace`).
-/

namespace SchemaAtlas

open Text

/-! ### Headers -/

namespace Header

variable {rest : List Char}

theorem not_isWord_head? (h : ∀ c ∈ (trimLeft rest).head?, ¬ isWord c) :
    ∀ c ∈ rest.head?, ¬ isWord c := by
  intro c hc hword
  obtain ⟨rest, rfl⟩ := List.head?_eq_some_iff.1 hc
  have htrim : trimLeft (c :: rest) = c :: rest :=
    List.dropWhile_cons_of_neg (not_isBlank_of_isWord hword)
  exact h c (by rw [htrim]; rfl) hword

/-- The first word of a text is not changed by what follows without a word at its beginning. -/
theorem spanWord_trimLeft_append (h : ∀ c ∈ (trimLeft rest).head?, ¬ isWord c) (cs : List Char) :
    (spanWord (trimLeft (cs ++ rest))).1 = (spanWord (trimLeft cs)).1 := by
  by_cases hblank : ∀ c ∈ cs, isBlank c
  · rw [trimLeft_append_of_all_isBlank hblank, trimLeft_of_all_isBlank hblank,
      spanWord_fst_eq_nil h]
    rfl
  · rw [trimLeft_append_of_not_all_isBlank hblank, spanWord_append_of_head? (not_isWord_head? h)]

theorem name?_append {word : String} (hword : ∀ c ∈ word.toList, isWord c)
    (h : ∀ c ∈ (trimLeft rest).head?, ¬ isWord c) (cs : List Char) :
    Header.name? word (cs ++ rest) = Header.name? word cs := by
  have hhead : ∀ c ∈ rest.head?, c ∉ word.toList :=
    fun c hc hmem => not_isWord_head? h c hc (hword c hmem)
  simp only [Header.name?, after?_append_of_head? hhead]
  cases hafter : after? word cs with
  | none => rfl
  | some behind =>
    cases behind with
    | cons c behind => simp only [Option.map_some, List.cons_append, spanWord_trimLeft_append h]
    | nil =>
      cases rest with
      | nil => rfl
      | cons c rest =>
        by_cases hc : isBlank c
        · have htrim : trimLeft (c :: rest) = trimLeft rest := List.dropWhile_cons_of_pos hc
          rw [htrim] at h
          simp only [Option.map_some, List.nil_append, hc, if_true, spanWord_fst_eq_nil h]
        · simp only [Option.map_some, List.nil_append, hc, Bool.false_eq_true, if_false]

theorem name?_trim {word : String} (hword : ∀ c ∈ word.toList, isWord c) (cs : List Char) :
    Header.name? word (trim cs) = Header.name? word (trimLeft cs) := by
  obtain ⟨blanks, hcs, hblanks⟩ := exists_eq_trimRight_append (trimLeft cs)
  have htrim : trimLeft blanks = [] := trimLeft_of_all_isBlank hblanks
  have hhead : ∀ c ∈ (trimLeft blanks).head?, ¬ isWord c := by simp [htrim]
  exact (name?_append hword hhead (trim cs)).symm.trans (congrArg _ hcs.symm)

/-- A header is not changed by what follows without a word at its beginning. -/
theorem read?_append (h : ∀ c ∈ (trimLeft rest).head?, ¬ isWord c) (line : Line) :
    Header.read? (line ++ rest) = Header.read? line := by
  have hname : ∀ word : String, (∀ c ∈ word.toList, isWord c) →
      Header.name? word (trim (line ++ rest)) = Header.name? word (trim line) := by
    intro word hword
    rw [name?_trim hword, name?_trim hword]
    by_cases hblank : ∀ c ∈ line, isBlank c
    · rw [trimLeft_append_of_all_isBlank hblank, trimLeft_of_all_isBlank hblank]
      rw [← trimLeft_trimLeft] at h
      exact name?_append hword h []
    · rw [trimLeft_append_of_not_all_isBlank hblank, name?_append hword h]
  simp only [Header.read?, hname "model" (List.all_eq_true.1 (by decide)),
    hname "enum" (List.all_eq_true.1 (by decide))]

theorem read?_append_cons {c : Char} (hblank : ¬ isBlank c) (hword : ¬ isWord c)
    (front back : Line) : Header.read? (front ++ c :: back) = Header.read? front := by
  refine read?_append ?_ front
  have htrim : trimLeft (c :: back) = c :: back := List.dropWhile_cons_of_neg hblank
  simpa [htrim] using hword

end Header

/-! ### Lines that hold the same blocks -/

/-- The lines agree in all that decides where blocks stand. -/
structure SameOutline (line line' : Line) : Prop where
  header : Header.read? line' = Header.read? line
  balance : Block.balance line' = Block.balance line
  headerDepth : (Header.read? line).isSome → Block.headerDepth line' = Block.headerDepth line

/-- The blocks stand at the same place under the same header, and their lines are related by `R`. -/
structure PlacedBlock.Matches (R : Line → Line → Prop) (p p' : PlacedBlock) : Prop where
  number : p'.number = p.number
  header : p'.header = p.header
  extent : p'.block.extent = p.block.extent
  body : List.Forall₂ R p.block.body p'.block.body

section

variable {R : Line → Line → Prop} (hR : ∀ line line', R line line' → SameOutline line line')
include hR

theorem bodyLength?_congr {lines lines' : List Line} (h : List.Forall₂ R lines lines')
    (depth : Int) : Block.bodyLength? depth lines' = Block.bodyLength? depth lines := by
  induction h generalizing depth with
  | nil => rfl
  | cons hline _ ih => simp only [Block.bodyLength?, (hR _ _ hline).balance, ih]

theorem read?_matches {header header' : Line}
    (hdepth : Block.headerDepth header' = Block.headerDepth header)
    {rest rest' : List Line} (h : List.Forall₂ R rest rest') :
    Option.Rel (fun b b' => b'.extent = b.extent ∧ List.Forall₂ R b.body b'.body)
      (Block.read? header rest) (Block.read? header' rest') := by
  unfold Block.read?
  rw [hdepth, bodyLength?_congr hR h]
  split_ifs
  · exact .some ⟨rfl, .nil⟩
  · cases Block.bodyLength? (Block.headerDepth header) rest with
    | none => exact .none
    | some n => exact .some ⟨rfl, List.forall₂_take n h⟩

/-- Related lines hold blocks at the same places. -/
theorem forall₂_placedFrom {lines lines' : List Line} (h : List.Forall₂ R lines lines')
    (number inside : Nat) :
    List.Forall₂ (PlacedBlock.Matches R) (placedFrom number inside lines)
      (placedFrom number inside lines') := by
  induction h generalizing number inside with
  | nil => exact .nil
  | @cons line line' rest rest' hline hrest ih =>
    cases inside with
    | succ inside => exact ih (number + 1) inside
    | zero =>
      have houtline := hR _ _ hline
      simp only [placedFrom, houtline.header]
      cases hheader : Header.read? line with
      | none => exact ih (number + 1) 0
      | some header =>
        have hblock := read?_matches hR (houtline.headerDepth (by simp [hheader])) hrest
        generalize Block.read? line rest = found, Block.read? line' rest' = found' at hblock
        cases hblock with
        | none => exact .nil
        | some hblock =>
          refine .cons ⟨rfl, rfl, hblock.1, hblock.2⟩ ?_
          rw [hblock.1]
          exact ih (number + 1) _

end

/-! ### The outline of a schema -/

/-- The names of models and enumerations, and where the models stand. -/
def Schema.outline (s : Schema) : List (String × Nat × Nat) × List String :=
  (s.models.map fun m => (m.name, m.line, m.endLine), s.enumerations.map Enumeration.name)

namespace PlacedBlock

theorem map_model?_declaration (enums : List String) (p : PlacedBlock) :
    ((p.declaration enums).model?).map (fun m => (m.name, m.line, m.endLine)) =
      if p.header.kind = .model then some (p.header.name, p.number, p.lastNumber) else none := by
  cases hkind : p.header.kind <;>
    simp [declaration, Declaration.ofBlock, Declaration.model?, hkind, Model.ofBlock, lastNumber]

theorem map_enumeration?_declaration (enums : List String) (p : PlacedBlock) :
    ((p.declaration enums).enumeration?).map Enumeration.name =
      if p.header.kind = .enumeration then some p.header.name else none := by
  cases hkind : p.header.kind <;>
    simp [declaration, Declaration.ofBlock, Declaration.enumeration?, hkind, Enumeration.ofBlock]

end PlacedBlock

theorem filterMap_eq_of_forall₂ {α β γ : Type} {R : α → β → Prop} {f : α → Option γ}
    {g : β → Option γ} (hfg : ∀ a b, R a b → g b = f a) {as : List α} {bs : List β}
    (h : List.Forall₂ R as bs) : bs.filterMap g = as.filterMap f := by
  induction h with
  | nil => rfl
  | cons hab _ ih => rw [List.filterMap_cons, List.filterMap_cons, hfg _ _ hab, ih]

theorem Schema.outline_ofLines_congr {lines lines' : List Line}
    (h : List.Forall₂ SameOutline lines lines') :
    (ofLines lines').outline = (ofLines lines).outline := by
  have hplaced := forall₂_placedFrom (fun _ _ h => h) h 1 0
  simp only [outline, models_ofLines, enumerations_ofLines, List.map_filterMap,
    PlacedBlock.map_model?_declaration, PlacedBlock.map_enumeration?_declaration]
  congr 1 <;> refine filterMap_eq_of_forall₂ (fun p p' hp => ?_) hplaced
  · rw [PlacedBlock.lastNumber, PlacedBlock.lastNumber, hp.number, hp.header, hp.extent]
  · rw [hp.header]

/-! ### Exchanged comments and string literals -/

/-- The lines differ in the text behind the beginning of a comment, or in the text between the
quotes of a string literal that stands in the code. -/
inductive InertExchange : Line → Line → Prop
  | comment {front : List Char} (hfront : stateAfter front = .comment) (old new : List Char) :
    InertExchange (front ++ old) (front ++ new)
  | literal {front old new : List Char} (hfront : (stateAfter front).inCode)
    (hold : isLiteralText old) (hnew : isLiteralText new) (back : List Char) :
    InertExchange (front ++ '"' :: (old ++ '"' :: back)) (front ++ '"' :: (new ++ '"' :: back))

theorem InertExchange.header_eq {line line' : Line} (h : InertExchange line line') :
    Header.read? line' = Header.read? line := by
  cases h with
  | comment hfront old new =>
    obtain ⟨code, text, rfl, -⟩ := LineState.after_eq_comment ⟨by simp, by simp⟩ hfront
    simp only [List.append_assoc, List.cons_append]
    rw [Header.read?_append_cons (by decide) (by decide),
      Header.read?_append_cons (by decide) (by decide)]
  | literal hfront hold hnew back =>
    rw [Header.read?_append_cons (by decide) (by decide),
      Header.read?_append_cons (by decide) (by decide)]

/-- To exchange the text of a comment or of a string literal moves no block, if as many more braces
are opened than closed as before, and if the depth behind a header stays as it is. -/
theorem Schema.outline_ofText_exchange {text text' : String} (front back : List Line)
    {line line' : Line} (htext : lines text.toList = front ++ line :: back)
    (htext' : lines text'.toList = front ++ line' :: back) (hline : InertExchange line line')
    (hbalance : Block.balance line' = Block.balance line)
    (hdepth : (Header.read? line).isSome → Block.headerDepth line' = Block.headerDepth line) :
    (ofText text').outline = (ofText text).outline := by
  have hself : ∀ ls : List Line, List.Forall₂ SameOutline ls ls :=
    fun ls => List.forall₂_same.2 fun l _ => ⟨rfl, rfl, fun _ => rfl⟩
  have houtline : SameOutline line line' := ⟨hline.header_eq, hbalance, hdepth⟩
  rw [ofText, ofText, htext, htext']
  exact outline_ofLines_congr (List.rel_append (hself front) (.cons houtline (hself back)))

/-- A comment and a default that close and open a brace instead of others that open and close one. -/
theorem Schema.outline_ofText_exchange_braces :
    let text (line : Line) := String.ofList
      ("model A \x7b\n".toList ++ line ++ "\n  b Int\n\x7d\nenum E \x7b\n\x7d\n".toList)
    let noted (comment : String) := "  a Int //".toList ++ comment.toList
    let defaulted (value : String) :=
      "  a Json @default(".toList ++ '"' :: (value.toList ++ '"' :: [')'])
    (ofText (text (noted " \x7d\x7b"))).outline = ([("A", 1, 4)], ["E"]) ∧
      (ofText (text (defaulted "\x7d\x7b"))).outline = ([("A", 1, 4)], ["E"]) := by
  intro text noted defaulted
  have hnoted : InertExchange (noted " \x7b\x7d") (noted " \x7d\x7b") :=
    .comment (by decide) _ _
  have hdefaulted : InertExchange (defaulted "\x7b\x7d") (defaulted "\x7d\x7b") :=
    .literal (by decide) (by decide) (by decide) _
  have hlines : ∀ line line', InertExchange line line' →
      lines (text line).toList = "model A \x7b".toList :: line ::
        ["  b Int", "\x7d", "enum E \x7b", "\x7d"].map String.toList →
      lines (text line').toList = "model A \x7b".toList :: line' ::
        ["  b Int", "\x7d", "enum E \x7b", "\x7d"].map String.toList →
      Block.balance line' = Block.balance line → Header.read? line = none →
      (ofText (text line')).outline = (ofText (text line)).outline := by
    intro line line' hline htext htext' hbalance hheader
    exact outline_ofText_exchange ["model A \x7b".toList] _ htext htext' hline hbalance
      (by simp [hheader])
  constructor
  · refine (hlines _ _ hnoted ?_ ?_ ?_ ?_).trans ?_ <;> decide +kernel
  · refine (hlines _ _ hdefaulted ?_ ?_ ?_ ?_).trans ?_ <;> decide +kernel

/-- Without these conditions a block ends early: braces count in comments and in string literals. -/
theorem Schema.outline_changes_with_brace :
    let text (line : Line) := String.ofList
      ("model A \x7b\n".toList ++ line ++ "\n  b Int\n\x7d\n".toList)
    let noted (comment : String) := "  a Int //".toList ++ comment.toList
    let defaulted (value : String) :=
      "  a Json @default(".toList ++ '"' :: (value.toList ++ '"' :: [')'])
    (InertExchange (noted " x") (noted " \x7d") ∧
      (ofText (text (noted " x"))).outline = ([("A", 1, 4)], []) ∧
      (ofText (text (noted " \x7d"))).outline = ([("A", 1, 2)], [])) ∧
    (InertExchange (defaulted "x") (defaulted "\x7d") ∧
      (ofText (text (defaulted "x"))).outline = ([("A", 1, 4)], []) ∧
      (ofText (text (defaulted "\x7d"))).outline = ([("A", 1, 2)], [])) := by
  intro text noted defaulted
  refine ⟨⟨.comment (by decide) _ _, ?_⟩, .literal (by decide) (by decide) (by decide) _, ?_⟩ <;>
    decide +kernel

end SchemaAtlas

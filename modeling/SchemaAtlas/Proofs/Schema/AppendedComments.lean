import SchemaAtlas.Proofs.Schema.BlockBoundaries
import SchemaAtlas.Proofs.Schema.BodyFields

/-!
# Comments at the ends of lines

A comment that is appended to a line is not seen by any reading of it, whatever the line is: a
header or a closing line, a field, a block attribute, a value, or something that is understood
nowhere.  Only a line that ends inside a string literal would take the comment into the literal.

Main statement: appending comments without braces to lines that do not leaves the schema of a text
as it is, up to the comments that it records (`Schema.ofText_commented`).
-/

namespace SchemaAtlas

open Text

/-- The line as it is, or with a comment without braces behind it. -/
inductive MaybeCommented : Line → Line → Prop
  | same (line : Line) : MaybeCommented line line
  | appended {line : Line} (hline : ¬ (stateAfter line).inLiteral) {comment : List Char}
    (hopen : '\x7b' ∉ comment) (hclose : '\x7d' ∉ comment) :
    MaybeCommented line (line ++ " // ".toList ++ comment)

/-- The model without the comments that are recorded in it. -/
def Model.withoutComments (m : Model) : Model :=
  { m with fields := m.fields.map Field.withoutComment, comments := [] }

/-! ### The text of a commented line -/

/-- `MaybeCommented` for the texts of lines, without blanks at their ends.  The text of a blank line
with a comment is the comment alone. -/
inductive CommentedText : Line → Line → Prop
  | same (text : Line) : CommentedText text text
  | alone (comment : Line) : CommentedText [] ('/' :: '/' :: comment)
  | behind {text : Line} (htext : ¬ (stateAfter text).inLiteral) (hne : ¬ ∀ c ∈ text, isBlank c)
    {b : Char} {blanks : Line} (hblanks : ∀ c ∈ b :: blanks, isBlank c) (comment : Line) :
    CommentedText text (text ++ b :: (blanks ++ '/' :: '/' :: comment))

theorem stateAfter_trim {line : Line} (h : ¬ (stateAfter line).inLiteral) :
    ¬ (stateAfter (trim line)).inLiteral := by
  intro htrim
  obtain ⟨blanks, hright, hblanks⟩ := exists_eq_trimRight_append (trimLeft line)
  refine h ?_
  rw [← stateAfter_trimLeft, hright, stateAfter, LineState.after_append]
  exact LineState.inLiteral_after htrim fun hmem => absurd (hblanks _ hmem) (by decide)

theorem MaybeCommented.commentedText {line line' : Line} (h : MaybeCommented line line') :
    CommentedText (trim line) (trim line') := by
  cases h with
  | same => exact .same _
  | @appended hline comment _ _ =>
    have hcons : line ++ " // ".toList ++ comment =
        (line ++ [' ']) ++ '/' :: '/' :: ' ' :: comment := by simp
    rw [hcons, trim_append_cons (by decide)]
    have hslash : trimRight ('/' :: ' ' :: comment) = '/' :: trimRight (' ' :: comment) :=
      trimRight_append_cons (by decide) [] _
    rw [hslash]
    by_cases hblank : ∀ c ∈ line, isBlank c
    · rw [trim_eq_nil_iff.2 hblank, trimLeft_append_of_all_isBlank hblank]
      exact .alone _
    · obtain ⟨blanks, hright, hblanks⟩ := exists_eq_trimRight_append (trimLeft line)
      have hne : ¬ ∀ c ∈ trim line, isBlank c := by
        rwa [← trim_eq_nil_iff, trim_trim, trim_eq_nil_iff]
      have hspaces : ∀ c ∈ blanks ++ [' '], isBlank c := by
        simpa [or_imp, forall_and] using ⟨hblanks, show isBlank ' ' from rfl⟩
      rw [trimLeft_append_of_not_all_isBlank hblank, hright, List.append_assoc (trimRight _),
        List.append_assoc]
      cases hspace : blanks ++ [' '] with
      | nil => simp at hspace
      | cons b blanks =>
        rw [hspace] at hspaces
        exact .behind (stateAfter_trim hline) hne hspaces _

/-- The text says nothing but a comment, or nothing at all. -/
def isRemark (text : Line) : Bool :=
  text.isEmpty || startsWith "//" text

namespace CommentedText

variable {text text' : Line}

/-- A comment behind a text is no part of its code. -/
theorem code_eq (h : CommentedText text text') :
    (Attribute.codeAndComment text').1 = (Attribute.codeAndComment text).1 := by
  cases h with
  | same => rfl
  | alone comment => rfl
  | @behind _ htext hne b blanks hblanks comment =>
    obtain ⟨hb, hspaces⟩ := List.forall_mem_cons.1 hblanks
    cases hstate : stateAfter text with
    | quoted | escaped => exact absurd (by rw [hstate]; rfl) htext
    | comment =>
      obtain ⟨code, said, hcut⟩ := Attribute.cutComment_append_of_comment hstate
      have hself := hcut []
      rw [List.append_nil] at hself
      simp only [Attribute.codeAndComment, hcut, hself]
    | code | slash =>
      have hcode : (stateAfter text).inCode := by rw [hstate]; rfl
      have hbehind : stateAfter (text ++ b :: blanks) = .code := by
        rw [stateAfter, LineState.after_append, LineState.after_cons, ← stateAfter,
          LineState.next_of_isBlank hcode hb, LineState.after_of_all_isBlank hspaces]
      have hne : stateAfter text ≠ .comment := by simp [hstate]
      rw [← List.cons_append, ← List.append_assoc, Attribute.codeAndComment_append_slashes hbehind,
        Attribute.codeAndComment_of_ne_comment hne]
      exact trimRight_append_of_all_isBlank hblanks text

/-- What a text begins with is not changed by a comment behind it. -/
theorem startsWith_eq {word : String} (hword : ∀ c ∈ word.toList, ¬ isBlank c) {b : Char}
    (hb : isBlank b) (rest : Line) :
    startsWith word (text ++ b :: rest) = startsWith word text := by
  have hnot : b ∉ word.toList := fun hmem => hword b hmem hb
  exact startsWith_append_of_head? (forall_mem_head?_cons hnot rest) text

theorem isRemark_eq (h : CommentedText text text') : isRemark text' = isRemark text := by
  cases h with
  | same => rfl
  | alone comment => rfl
  | @behind _ htext hne b blanks hblanks comment =>
    have hslashes : startsWith "//" (text ++ b :: (blanks ++ '/' :: '/' :: comment)) =
        startsWith "//" text :=
      startsWith_eq (List.any_eq_false.1 (by decide)) (hblanks b List.mem_cons_self) _
    cases text with
    | nil => exact absurd (by simp) hne
    | cons c text =>
      rw [isRemark, isRemark, hslashes]
      rfl

theorem startsWith_block_eq (h : CommentedText text text') :
    startsWith "@@" text' = startsWith "@@" text := by
  cases h with
  | same => rfl
  | alone comment => rfl
  | behind htext hne hblanks comment =>
    exact startsWith_eq (List.any_eq_false.1 (by decide)) (hblanks _ List.mem_cons_self) _

theorem firstWord?_eq (h : CommentedText text text') (htext : ¬ isRemark text) :
    firstWord? text' = firstWord? text := by
  cases h with
  | same => rfl
  | alone comment => exact absurd rfl htext
  | behind _ hne hblanks comment =>
    exact firstWord?_append_cons (hblanks _ List.mem_cons_self) hne _

end CommentedText

/-! ### The reading of a commented line -/

theorem attributeLine?_eq_ite (word : String) (line : Line) :
    attributeLine? word line =
      let code := (Attribute.codeAndComment (trim line)).1
      if !isRemark (trim line) && startsWith "@@" (trim line) && startsWith word code then some code
      else none := by
  unfold attributeLine? BodyLine.ofLine isRemark
  by_cases hempty : (trim line).isEmpty
  · simp [hempty]
  by_cases hcomment : startsWith "//" (trim line)
  · simp [hempty, hcomment]
  by_cases hblock : startsWith "@@" (trim line) <;> simp [hempty, hcomment, hblock]

theorem isFieldLine_eq (line : Line) :
    isFieldLine line = (!isRemark (trim line) && !startsWith "@@" (trim line)) := by
  rw [isFieldLine, isRemark, Bool.not_or]

/-- Lines have the same value up to what follows its name. -/
structure SameValue (value value' : String) : Prop where
  block : startsWith "@@" value'.toList = startsWith "@@" value.toList
  name : valueName value' = valueName value

namespace MaybeCommented

variable {line line' : Line}

theorem attributeLine?_eq (h : MaybeCommented line line') (word : String) :
    attributeLine? word line' = attributeLine? word line := by
  have htext := h.commentedText
  simp only [attributeLine?_eq_ite, htext.isRemark_eq, htext.startsWith_block_eq, htext.code_eq]

theorem ofLine?_eq (h : MaybeCommented line line') (enums : List String) (number : Nat) :
    Field.ofLine? enums number line' = Field.ofLine? enums number line := by
  have htext := h.commentedText
  have hread : (Field.read? enums none number line').map Field.withoutComment =
      (Field.read? enums none number line).map Field.withoutComment := by
    simp only [Field.read?, htext.code_eq, Option.map_map]
    rfl
  rw [Field.ofLine?, Field.ofLine?, hread, isFieldLine_eq, isFieldLine_eq, htext.isRemark_eq,
    htext.startsWith_block_eq]

theorem valueLine?_rel (h : MaybeCommented line line') :
    Option.Rel SameValue (valueLine? line) (valueLine? line') := by
  have htext := h.commentedText
  have hvalue : ∀ line, valueLine? line =
      if isRemark (trim line) then none else some (.ofList (trim line)) := fun _ => rfl
  rw [hvalue, hvalue, htext.isRemark_eq]
  by_cases hremark : isRemark (trim line)
  · rw [if_pos hremark, if_pos hremark]
    exact .none
  · rw [if_neg hremark, if_neg hremark]
    refine .some ⟨by simpa using htext.startsWith_block_eq, ?_⟩
    simp only [valueName, String.toList_ofList, htext.firstWord?_eq hremark]

theorem sameOutline (h : MaybeCommented line line') : SameOutline line line' := by
  cases h with
  | same => exact ⟨rfl, rfl, fun _ => rfl⟩
  | @appended hline comment hopen hclose =>
    have hbalance : Block.balance (line ++ " // ".toList ++ comment) = Block.balance line := by
      simp [Block.balance, List.count_append, List.count_eq_zero_of_not_mem, hopen, hclose]
    refine ⟨?_, hbalance, fun _ => ?_⟩
    · have hhead : ∀ c ∈ (trimLeft (" // ".toList ++ comment)).head?, ¬ isWord c :=
        forall_mem_head?_cons (c := '/') (by decide) _
      rw [List.append_assoc]
      exact Header.read?_append hhead line
    · simp only [Block.headerDepth, hbalance]
      simp [hopen]

end MaybeCommented

/-! ### The blocks of commented lines -/

section

variable {body body' : List Line} (h : List.Forall₂ MaybeCommented body body')
include h

theorem plainFields_commented (enums : List String) (number : Nat) :
    plainFields enums number body' = plainFields enums number body := by
  induction h generalizing number with
  | nil => rfl
  | cons hline _ ih => rw [plainFields_cons, plainFields_cons, hline.ofLine?_eq, ih]

theorem filterMap_attributeLine?_commented (word : String) :
    body'.filterMap (attributeLine? word) = body.filterMap (attributeLine? word) :=
  filterMap_eq_of_forall₂ (fun _ _ hline => hline.attributeLine?_eq word) h

theorem declaredEnumerations_commented :
    declaredEnumerations body' = declaredEnumerations body := by
  have hheader : ∀ line line', MaybeCommented line line' →
      enumerationHeader? line' = enumerationHeader? line := by
    intro line line' hline
    rw [enumerationHeader?, enumerationHeader?, hline.sameOutline.header]
  rw [declaredEnumerations, declaredEnumerations, filterMap_eq_of_forall₂ hheader h]

end

theorem members_congr {values values' : List String} (h : List.Forall₂ SameValue values values')
    (name : String) : Enumeration.members ⟨name, values'⟩ = Enumeration.members ⟨name, values⟩ := by
  simp only [Enumeration.members]
  induction h with
  | nil => rfl
  | cons hvalue _ ih =>
    simp only [List.filter_cons, hvalue.block]
    split_ifs
    · rw [List.mapM_cons, List.mapM_cons, hvalue.name, ih]
    · exact ih

namespace PlacedBlock.Matches

variable {p p' : PlacedBlock} (h : p.Matches MaybeCommented p') (enums : List String)
include h

theorem model?_eq :
    ((p'.declaration enums).model?).map Model.withoutComments =
      ((p.declaration enums).model?).map Model.withoutComments := by
  have hmodel : (Model.ofBlock enums p'.number p'.header.name p'.block).withoutComments =
      (Model.ofBlock enums p.number p.header.name p.block).withoutComments := by
    simp only [Model.withoutComments, Model.ofBlock, BlockAttribute.ofBody,
      map_withoutComment_fieldsFrom, plainFields_commented h.body,
      filterMap_attributeLine?_commented h.body, h.number, h.header, h.extent]
  rw [h.number, h.header] at hmodel
  cases hkind : p.header.kind <;>
    simp [declaration, Declaration.ofBlock, Declaration.model?, h.number, h.header, hkind, hmodel]

theorem enumeration?_eq :
    ((p'.declaration enums).enumeration?).map (fun e => (e.name, e.members)) =
      ((p.declaration enums).enumeration?).map fun e => (e.name, e.members) := by
  have hvalues : List.Forall₂ SameValue (p.block.body.filterMap valueLine?)
      (p'.block.body.filterMap valueLine?) :=
    List.rel_filterMap (fun _ _ hline => hline.valueLine?_rel) h.body
  have hmembers := members_congr hvalues p.header.name
  cases hkind : p.header.kind <;>
    simp [declaration, Declaration.ofBlock, Declaration.enumeration?, h.header, hkind,
      Enumeration.ofBlock, hmembers]

end PlacedBlock.Matches

/-- Comments without braces that are appended to lines, none of which ends inside a string literal,
change nothing but the comments that the schema records. -/
theorem Schema.ofText_commented {text text' : String}
    (h : List.Forall₂ MaybeCommented (lines text.toList) (lines text'.toList)) :
    (ofText text').models.map Model.withoutComments =
        (ofText text).models.map Model.withoutComments ∧
      (ofText text').enumerations.map (fun e => (e.name, e.members)) =
        (ofText text).enumerations.map fun e => (e.name, e.members) := by
  have hplaced := forall₂_placedFrom (fun _ _ hline => hline.sameOutline) h 1 0
  simp only [ofText, models_ofLines, enumerations_ofLines, declaredEnumerations_commented h,
    List.map_filterMap]
  constructor
  · exact filterMap_eq_of_forall₂ (fun _ _ hp => hp.model?_eq _) hplaced
  · exact filterMap_eq_of_forall₂ (fun _ _ hp => hp.enumeration?_eq _) hplaced

/-- A comment behind every line of a model with two slashes in a string literal, and of an
enumeration. -/
theorem Schema.ofText_commented_every_line :
    let plain := ["model A \x7b", "", "  id String @default(\"//\")", "  @@index([id])", "\x7d",
      "enum E \x7b", "  X @map(\"x\")", "\x7d"].map String.toList
    let text' := String.ofList (plain.flatMap fun line => line ++ " // note\n".toList)
    (ofText text').models.map Model.withoutComments = [
        { name := "A", fields := [⟨"id", "String", .scalar, false, false, false, false,
            some "\"//\"", none, none, none, 3⟩], indexes := [⟨["id"], "@@index([id])"⟩],
          line := 1, endLine := 5 }] ∧
      (ofText text').enumerations.map (fun e => (e.name, e.members)) = [("E", .ok ["X"])] := by
  intro plain text'
  let text := String.ofList (plain.flatMap fun line => line ++ ['\n'])
  have htext : lines text.toList = plain := by decide +kernel
  have htext' : lines text'.toList =
      plain.map fun line => line ++ " // ".toList ++ "note".toList := by decide +kernel
  have hstate : ∀ line ∈ plain, ¬ (stateAfter line).inLiteral := by decide
  have hlines : List.Forall₂ MaybeCommented (lines text.toList) (lines text'.toList) := by
    rw [htext, htext', List.forall₂_map_right_iff]
    refine List.forall₂_same.2 fun line hline => ?_
    exact .appended (hstate line hline) (by decide) (by decide)
  obtain ⟨hmodels, henumerations⟩ := ofText_commented hlines
  refine ⟨hmodels.trans ?_, henumerations.trans ?_⟩
  · decide +kernel
  · have hplain : (ofText text).enumerations = [⟨"E", ["X @map(\"x\")"]⟩] := by decide +kernel
    rw [hplain]
    rfl

end SchemaAtlas

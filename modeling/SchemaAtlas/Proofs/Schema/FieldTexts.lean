import SchemaAtlas.Proofs.Schema.LineState
import SchemaAtlas.Proofs.Schema.ModelBody
import SchemaAtlas.Proofs.Schema.Placement
import SchemaAtlas.Proofs.Text.Searching
import SchemaAtlas.Proofs.Text.Trimming

/-!
# Where the texts of a field come from

Whatever a field says is a part of a line: names, types and actions are words there, and defaults,
native types, comments and the names in the lists of a relation stand in a line as they are
(`Field.IsTakenFrom`).  So a character that no line has is in none of these texts.

Main statement: all fields of all models of a schema are taken from the lines of its text
(`isTakenFrom_of_mem_models`).
-/

namespace SchemaAtlas

namespace Text

/-! ### Parts of a text -/

theorem trim_isInfix (cs : List Char) : trim cs <:+: cs := by
  obtain ⟨blanks, hright, -⟩ := exists_eq_trimRight_append (trimLeft cs)
  have hfront : trim cs <+: trimLeft cs := ⟨blanks, hright.symm⟩
  exact hfront.isInfix.trans (List.dropWhile_suffix isBlank).isInfix

theorem isSuffix_of_after? {word : String} {cs rest : List Char} (h : after? word cs = some rest) :
    rest <:+ cs :=
  ⟨word.toList, (eq_append_of_after? h).symm⟩

/-- A search that succeeds does so somewhere in the text. -/
theorem exists_of_firstFrom?_eq_some {α : Type} {read : Option Char → List Char → Option α}
    {before : Option Char} {cs : List Char} {a : α} (h : firstFrom? read before cs = some a) :
    ∃ before here, here <:+ cs ∧ read before here = some a := by
  induction cs generalizing before with
  | nil => exact ⟨before, [], List.suffix_rfl, h⟩
  | cons c cs ih =>
    simp only [firstFrom?] at h
    split at h
    case h_1 found hread =>
      cases h
      exact ⟨before, c :: cs, List.suffix_rfl, hread⟩
    case h_2 =>
      obtain ⟨before, here, hhere, hread⟩ := ih h
      exact ⟨before, here, hhere.trans (List.suffix_cons c cs), hread⟩

theorem isSuffix_of_afterFirst? {word : String} {cs rest : List Char}
    (h : afterFirst? word cs = some rest) : rest <:+ cs := by
  obtain ⟨-, here, hhere, hafter⟩ := exists_of_firstFrom?_eq_some h
  exact (isSuffix_of_after? hafter).trans hhere

theorem spanWord_isPrefix (cs : List Char) : (spanWord cs).1 <+: cs := by
  unfold spanWord
  rw [List.span_eq_takeWhile_dropWhile]
  exact List.takeWhile_prefix isWord

theorem isWord_of_mem_spanWord {cs : List Char} {c : Char} (h : c ∈ (spanWord cs).1) : isWord c := by
  unfold spanWord at h
  rw [List.span_eq_takeWhile_dropWhile] at h
  exact List.mem_takeWhile_imp h

theorem spanWord_append (cs : List Char) : (spanWord cs).1 ++ (spanWord cs).2 = cs := by
  unfold spanWord
  rw [List.span_eq_takeWhile_dropWhile]
  exact List.takeWhile_append_dropWhile

theorem isPrefix_of_cutFirst? {c : Char} {cs front back : List Char}
    (h : cutFirst? c cs = some (front, back)) : front <+: cs :=
  ⟨c :: back, (eq_append_of_cutFirst? h).1.symm⟩

/-- The first part of a text is its beginning, and the others come somewhere behind it. -/
theorem exists_cutAt_eq_cons (sep : Char) (cs : List Char) :
    ∃ part parts, cutAt sep cs = part :: parts ∧ part <+: cs ∧ ∀ p ∈ parts, p <:+: cs := by
  induction cs with
  | nil => exact ⟨[], [], rfl, List.prefix_rfl, List.forall_mem_nil _⟩
  | cons c cs ih =>
    obtain ⟨part, parts, hparts, hpart, hrest⟩ := ih
    have hcs : cs <:+: c :: cs := (List.suffix_cons c cs).isInfix
    unfold cutAt
    rw [hparts]
    split
    · refine ⟨[], _, rfl, List.nil_prefix, List.forall_mem_cons.2 ⟨hpart.isInfix.trans hcs, ?_⟩⟩
      exact fun p hp => (hrest p hp).trans hcs
    · exact ⟨c :: part, parts, rfl, (List.prefix_cons_inj c).2 hpart,
        fun p hp => (hrest p hp).trans hcs⟩

theorem isInfix_of_mem_cutAt {sep : Char} {cs part : List Char} (h : part ∈ cutAt sep cs) :
    part <:+: cs := by
  obtain ⟨first, parts, hparts, hfirst, hrest⟩ := exists_cutAt_eq_cons sep cs
  rw [hparts, List.mem_cons] at h
  rcases h with rfl | h
  · exact hfirst.isInfix
  · exact hrest part h

end Text

open Text

/-! ### Attributes -/

namespace Attribute

theorem argumentFrom_isPrefix (inside : Bool) (depth : Nat) (cs : List Char) :
    argumentFrom inside depth cs <+: cs := by
  induction inside, depth, cs using argumentFrom_induction with
  | nil inside depth =>
    unfold argumentFrom
    exact List.prefix_rfl
  | escape_nil => exact List.prefix_rfl
  | escape depth d rest ih =>
    rw [argumentFrom_escape]
    exact (List.prefix_cons_inj _).2 ((List.prefix_cons_inj d).2 ih)
  | quoted depth c rest hc ih =>
    rw [argumentFrom_quoted depth hc]
    exact (List.prefix_cons_inj c).2 ih
  | close depth c rest hdepth =>
    rw [argumentFrom_code, hdepth]
    exact List.nil_prefix
  | code depth depth' c rest hdepth ih =>
    rw [argumentFrom_code, hdepth]
    exact (List.prefix_cons_inj c).2 ih

theorem argumentText_isInfix (cs : List Char) : argumentText cs <:+: cs := by
  unfold argumentText
  exact (trim_isInfix _).trans (argumentFrom_isPrefix false 0 cs).isInfix

theorem cutComment_isSuffix {inside : Bool} {cs text : List Char}
    (h : (cutComment inside cs).2 = some text) : text <:+ cs := by
  fun_induction cutComment inside cs with
  | case1 => cases h
  | case2 => cases h
  | case3 d rest cut ih =>
    exact (ih h).trans ((List.suffix_cons d rest).trans (List.suffix_cons _ _))
  | case4 c rest hc cut ih => exact (ih h).trans (List.suffix_cons c rest)
  | case5 inside c rest hinside hcomment =>
    cases h
    exact (List.tail_suffix rest).trans (List.suffix_cons c rest)
  | case6 inside c rest hinside hcode cut ih => exact (ih h).trans (List.suffix_cons c rest)

variable {line : List Char} {s : String}

theorem isInfix_of_defaultExpr? (h : defaultExpr? line = some s) : s.toList <:+: line := by
  obtain ⟨rest, hrest, rfl⟩ := Option.map_eq_some_iff.1 h
  rw [String.toList_ofList]
  exact (argumentText_isInfix rest).trans (isSuffix_of_afterFirst? hrest).isInfix

theorem isInfix_of_nativeTypeAt? (h : nativeTypeAt? line = some s) : s.toList <:+: line := by
  unfold nativeTypeAt? at h
  split at h
  case h_1 => cases h
  case h_2 rest hafter =>
    refine List.IsInfix.trans ?_ (isSuffix_of_after? hafter).isInfix
    split at h
    case h_1 => cases h
    case h_2 word inner _ hspan =>
      have hrest : word ++ '(' :: inner = rest := by
        have happend := spanWord_append rest
        rwa [hspan] at happend
      split at h
      case h_1 argument back hcut =>
        cases h
        rw [String.toList_ofList, ← hrest, (eq_append_of_cutFirst? hcut).1]
        exact ⟨[], back, by simp⟩
      case h_2 =>
        cases h
        rw [String.toList_ofList, ← hrest]
        exact (List.prefix_append word _).isInfix
    case h_3 word back _ _ hspan =>
      cases h
      have hword := spanWord_isPrefix rest
      rw [hspan] at hword
      rw [String.toList_ofList]
      exact hword.isInfix

theorem isInfix_of_nativeType? (h : nativeType? line = some s) : s.toList <:+: line := by
  obtain ⟨-, here, hhere, hread⟩ := exists_of_firstFrom?_eq_some h
  exact (isInfix_of_nativeTypeAt? hread).trans hhere.isInfix

theorem isInfix_of_comment (h : (codeAndComment line).2 = some s) : s.toList <:+: line := by
  unfold codeAndComment at h
  dsimp only at h
  split at h
  case h_1 => cases h
  case h_2 text hcut =>
    split at h
    · cases h
    · cases h
      rw [String.toList_ofList]
      exact (trim_isInfix text).trans (cutComment_isSuffix hcut).isInfix

/-! ### Relations -/

theorem isSuffix_of_clauseValue? {key : String} {before : Option Char} {value : List Char}
    (h : clauseValue? key before line = some value) : value <:+ line := by
  unfold clauseValue? at h
  split at h
  · obtain ⟨rest, hrest, rfl⟩ := Option.map_eq_some_iff.1 h
    exact (List.dropWhile_suffix isBlank).trans (isSuffix_of_after? hrest)
  · cases h

theorem isInfix_of_listClause? {key : String} {inner : List Char}
    (h : listClause? key line = some inner) : inner <:+: line := by
  obtain ⟨before, here, hhere, hread⟩ := exists_of_firstFrom?_eq_some h
  split at hread
  case h_1 list hvalue =>
    obtain ⟨cut, hcut, rfl⟩ := Option.map_eq_some_iff.1 hread
    have hlist : list <:+ line :=
      (List.suffix_cons '[' list).trans ((isSuffix_of_clauseValue? hvalue).trans hhere)
    exact (isPrefix_of_cutFirst? hcut).isInfix.trans hlist.isInfix
  case h_2 => cases hread

theorem isInfix_of_mem_namesOf {key : String} (h : s ∈ namesOf key line) : s.toList <:+: line := by
  unfold namesOf at h
  split at h
  case h_1 inner hlist =>
    obtain ⟨part, hpart, hname⟩ := List.mem_filterMap.1 h
    obtain ⟨item, hitem, rfl⟩ := List.mem_map.1 hpart
    split at hname
    · cases hname
    · cases hname
      rw [String.toList_ofList]
      exact (trim_isInfix item).trans
        ((isInfix_of_mem_cutAt hitem).trans (isInfix_of_listClause? hlist))
  case h_2 => cases h

theorem isWord_of_wordClause? {key : String} (h : wordClause? key line = some s) :
    ∀ c ∈ s.toList, isWord c := by
  obtain ⟨before, here, -, hread⟩ := exists_of_firstFrom?_eq_some h
  split at hread
  case h_1 value hvalue =>
    dsimp only at hread
    split at hread
    · cases hread
    · cases hread
      intro c hc
      rw [String.toList_ofList] at hc
      exact isWord_of_mem_spanWord hc
  case h_2 => cases hread

theorem exists_of_relation? {r : Relation} (h : relation? line = some r) :
    ∃ clauses, clauses <:+: line ∧ relationClauses clauses = r := by
  obtain ⟨rest, hrest, rfl⟩ := Option.map_eq_some_iff.1 h
  exact ⟨argumentText rest,
    (argumentText_isInfix rest).trans (isSuffix_of_afterFirst? hrest).isInfix, rfl⟩

end Attribute

/-! ### Fields -/

/-- The text is made of characters of names. -/
def IsWordText (s : String) : Prop :=
  ∀ c ∈ s.toList, isWord c

/-- The text stands in one of the lines. -/
def IsWrittenIn (lines : List Line) (s : String) : Prop :=
  ∃ line ∈ lines, s.toList <:+: line

theorem IsWordText.notMem {c : Char} (hc : ¬ isWord c) {s : String} (h : IsWordText s) :
    c ∉ s.toList :=
  fun hmem => hc (h c hmem)

theorem IsWrittenIn.notMem {lines : List Line} {c : Char} (hlines : ∀ line ∈ lines, c ∉ line)
    {s : String} (h : IsWrittenIn lines s) : c ∉ s.toList := by
  obtain ⟨line, hline, hpart⟩ := h
  exact fun hmem => hlines line hline (hpart.subset hmem)

/-- Each text of the field is a word or stands in one of the lines. -/
structure Field.IsTakenFrom (lines : List Line) (f : Field) : Prop where
  name : IsWordText f.name
  baseType : IsWordText f.baseType
  defaultExpr : ∀ s, f.defaultExpr = some s → IsWrittenIn lines s
  nativeType : ∀ s, f.nativeType = some s → IsWrittenIn lines s
  comment : ∀ s, f.comment = some s → IsWrittenIn lines s
  foreignKeys : ∀ s ∈ f.foreignKeys, IsWrittenIn lines s
  references : ∀ s ∈ f.references, IsWrittenIn lines s
  onDelete : ∀ s, f.relation.bind Relation.onDelete = some s → IsWordText s

theorem isWordText_of_read? {code : List Char} {signature : FieldSignature}
    (h : FieldSignature.read? code = some signature) :
    IsWordText (.ofList signature.name) ∧ IsWordText (.ofList signature.baseType) := by
  have hword : ∀ {cs word rest : List Char}, spanWord cs = (word, rest) →
      IsWordText (.ofList word) := by
    intro cs word rest hspan c hc
    have hmem : c ∈ (spanWord cs).1 := by
      rwa [hspan, ← String.toList_ofList (l := word)]
    exact isWord_of_mem_spanWord hmem
  unfold FieldSignature.read? at h
  split at h
  case h_1 => cases h
  case h_2 name c behindName _ hname =>
    split at h
    · split at h
      case h_1 => cases h
      case h_2 baseType behindType _ hbaseType =>
        cases h
        exact ⟨hword hname, hword hbaseType⟩
    · cases h
  case h_3 => cases h

section

variable {lines : List Line}

theorem Field.isTakenFrom_of_read? {enums : List String} {pending : Option String} {number : Nat}
    {line : Line} {f : Field} (hline : line ∈ lines)
    (hpending : ∀ s, pending = some s → IsWrittenIn lines s)
    (h : Field.read? enums pending number line = some f) : f.IsTakenFrom lines := by
  obtain ⟨signature, hsignature, rfl⟩ := Option.map_eq_some_iff.1 h
  have htrim := trim_isInfix line
  have hcode : (Attribute.codeAndComment (trim line)).1 <:+: line :=
    (codeOf_isPrefix line).isInfix.trans htrim
  have hnames : ∀ r, Attribute.relation? (Attribute.codeAndComment (trim line)).1 = some r →
      (∀ s ∈ r.fields, IsWrittenIn lines s) ∧ (∀ s ∈ r.references, IsWrittenIn lines s) ∧
        ∀ s, r.onDelete = some s → IsWordText s := by
    intro r hr
    obtain ⟨clauses, hclauses, rfl⟩ := Attribute.exists_of_relation? hr
    have hpart := hclauses.trans hcode
    exact ⟨fun s hs => ⟨line, hline, (Attribute.isInfix_of_mem_namesOf hs).trans hpart⟩,
      fun s hs => ⟨line, hline, (Attribute.isInfix_of_mem_namesOf hs).trans hpart⟩,
      fun s hs => Attribute.isWord_of_wordClause? hs⟩
  obtain ⟨hname, hbaseType⟩ := isWordText_of_read? hsignature
  refine ⟨hname, hbaseType, fun s hs => ?_, fun s hs => ?_, fun s hs => ?_, fun s hs => ?_,
    fun s hs => ?_, fun s hs => ?_⟩
  · exact ⟨line, hline, (Attribute.isInfix_of_defaultExpr? hs).trans hcode⟩
  · exact ⟨line, hline, (Attribute.isInfix_of_nativeType? hs).trans hcode⟩
  · rcases (Option.orElse_eq_some _ _ _).1 hs with hown | ⟨-, habove⟩
    · exact ⟨line, hline, (Attribute.isInfix_of_comment hown).trans htrim⟩
    · exact hpending s habove
  · unfold Field.foreignKeys at hs
    split at hs
    case h_1 r hr => exact (hnames r hr).1 s hs
    case h_2 => cases hs
  · unfold Field.references at hs
    split at hs
    case h_1 r hr => exact (hnames r hr).2.1 s hs
    case h_2 => cases hs
  · obtain ⟨r, hr, hs⟩ := Option.bind_eq_some_iff.1 hs
    exact (hnames r hr).2.2 s hs

theorem isWrittenIn_of_comment {line : Line} (hline : line ∈ lines) {text : String}
    (h : BodyLine.ofLine line = .comment text) : IsWrittenIn lines text := by
  unfold BodyLine.ofLine at h
  dsimp only at h
  split_ifs at h
  cases h
  refine ⟨line, hline, ?_⟩
  rw [String.toList_ofList]
  exact (trim_isInfix _).trans ((List.dropWhile_suffix _).isInfix.trans (trim_isInfix line))

/-- On the way through the lines of a model, the comment that waits for its field is written in a line
that has been passed. -/
theorem isTakenFrom_of_mem_fieldsFrom {enums : List String} {pending : Option String} {number : Nat}
    {body : List Line} (hbody : ∀ line ∈ body, line ∈ lines)
    (hpending : ∀ s, pending = some s → IsWrittenIn lines s) {f : Field}
    (hf : f ∈ fieldsFrom enums pending number body) : f.IsTakenFrom lines := by
  have hnothing : ∀ s, none = some s → IsWrittenIn lines s := by
    intro s hs
    cases hs
  fun_induction fieldsFrom enums pending number body with
  | case1 => cases hf
  | case2 pending number line rest hline ih =>
    exact ih (List.forall_mem_cons.1 hbody).2 hnothing hf
  | case3 pending number line rest text hline ih =>
    obtain ⟨hmem, hrest⟩ := List.forall_mem_cons.1 hbody
    refine ih hrest (fun s hs => ?_) hf
    cases hs
    exact isWrittenIn_of_comment hmem hline
  | case4 pending number line rest code hline ih =>
    exact ih (List.forall_mem_cons.1 hbody).2 hpending hf
  | case5 pending number line rest text hline g hg ih =>
    obtain ⟨hmem, hrest⟩ := List.forall_mem_cons.1 hbody
    rcases List.mem_cons.1 hf with rfl | hf
    · obtain ⟨-, rfl⟩ := BodyLine.ofLine_eq_field_iff.1 hline
      rw [Field.read?_trim] at hg
      exact Field.isTakenFrom_of_read? hmem hpending hg
    · exact ih hrest hnothing hf
  | case6 pending number line rest text hline hnone ih =>
    exact ih (List.forall_mem_cons.1 hbody).2 hnothing hf

/-! ### Models -/

theorem isWordText_of_headerName? {word : String} {line : Line} {name : String}
    (h : Header.name? word line = some name) : IsWordText name := by
  unfold Header.name? at h
  split at h
  case h_1 c rest _ =>
    split at h
    · split at h
      case h_1 => cases h
      case h_2 =>
        cases h
        intro d hd
        rw [String.toList_ofList] at hd
        exact isWord_of_mem_spanWord hd
    · cases h
  case h_2 => cases h

theorem isWordText_of_header {line : Line} {header : Header} (h : Header.read? line = some header) :
    IsWordText header.name := by
  unfold Header.read? at h
  split at h
  case h_1 name hname =>
    cases h
    exact isWordText_of_headerName? hname
  case h_2 name _ hname =>
    cases h
    exact isWordText_of_headerName? hname
  case h_3 => cases h

/-- The names of models are words, and their fields are taken from the lines. -/
theorem isTakenFrom_of_mem_models {m : Model} (hm : m ∈ (Schema.ofLines lines).models) :
    IsWordText m.name ∧ ∀ f ∈ m.fields, f.IsTakenFrom lines := by
  obtain ⟨p, hp, -, rfl⟩ := Schema.mem_models_ofLines_iff.1 hm
  obtain ⟨front, line, back, rfl, -, hheader, hblock⟩ := standsIn_of_mem_placedFrom hp
  refine ⟨isWordText_of_header hheader, fun f hf => ?_⟩
  have hbody : ∀ l ∈ p.block.body, l ∈ front ++ line :: back := by
    intro l hl
    have hback := (Block.body_prefix_of_read? hblock).subset hl
    exact List.mem_append_right front (List.mem_cons_of_mem line hback)
  have hpending : ∀ s, none = some s → IsWrittenIn (front ++ line :: back) s := nofun
  exact isTakenFrom_of_mem_fieldsFrom hbody hpending hf

end

end SchemaAtlas

import SchemaAtlas.Proofs.Schema.LiteralExchange
import SchemaAtlas.Proofs.Schema.WrittenRelation

/-!
# Field lines as they are written

`Field.Spells` says how a field is written on a line: its name, its type, its attributes in any
order, each behind a blank (`FieldAttribute.Spells`), and its comment.  An attribute starts with its
mark, and the character that all marks start with occurs nowhere else in it, so a search for one
kind of attribute passes over the others (`finds_attribute`).

Main statement: a line is read as the field that it spells (`Field.read?_of_spells`).
-/

namespace SchemaAtlas

open Text

/-- An attribute of a field. -/
inductive FieldAttribute where
  | identifier
  | unique
  | default (expr : String)
  | native (type : String)
  | relation (r : Relation)

/-- The attributes that the field has. -/
def Field.attributes (f : Field) : List FieldAttribute :=
  (if f.isId then [.identifier] else []) ++ (if f.isUnique then [.unique] else []) ++
    (f.defaultExpr.map .default).toList ++ (f.nativeType.map .native).toList ++
    (f.relation.map .relation).toList

/-- An expression that can stand in an attribute: parentheses are balanced and literals closed, no
attribute starts in it, and two slashes stand in literals only. -/
structure IsExpression (cs : List Char) : Prop where
  balanced : Balanced cs
  trim_eq : trim cs = cs
  at_notMem : '@' ∉ cs
  slashes : ∀ front back, cs = front ++ '/' :: '/' :: back → (stateAfter front).inLiteral

/-- A native type with or without an argument. -/
inductive IsNativeType : String → Prop
  | word {word : String} (h : IsName word) : IsNativeType word
  | applied {word argument : String} (h : IsName word)
      (hargument : ∀ c ∈ argument.toList, c ∉ [')', '"', '@'])
      (hslashes : ¬ "//".toList <:+: argument.toList) :
      IsNativeType (word ++ ("(" ++ argument ++ ")"))

namespace FieldAttribute

/-- What the attribute starts with. -/
def mark : FieldAttribute → String
  | identifier => "@id"
  | unique => "@unique"
  | default _ => "@default("
  | native _ => "@db."
  | relation _ => "@relation("

/-- All marks. -/
def marks : List String :=
  ["@id", "@unique", "@default(", "@db.", "@relation("]

def identifier? : FieldAttribute → Option Unit
  | identifier => some ()
  | _ => none

def unique? : FieldAttribute → Option Unit
  | unique => some ()
  | _ => none

def default? : FieldAttribute → Option String
  | default expr => some expr
  | _ => none

def native? : FieldAttribute → Option String
  | native type => some type
  | _ => none

def relation? : FieldAttribute → Option Relation
  | relation r => some r
  | _ => none

/-- What stands behind the mark. -/
inductive SpellsArgument : FieldAttribute → List Char → Prop
  | identifier : SpellsArgument .identifier []
  | unique : SpellsArgument .unique []
  | default {expr : String} (h : IsExpression expr.toList) :
      SpellsArgument (.default expr) (expr.toList ++ [')'])
  | native {type : String} (h : IsNativeType type) : SpellsArgument (.native type) type.toList
  | relation {r : Relation} {args : List Char} (hname : ∀ text ∈ r.name, '@' ∉ text.toList)
      (h : r.Spells args) : SpellsArgument (.relation r) (args ++ [')'])

/-- The attribute as it is written. -/
inductive Spells (a : FieldAttribute) : List Char → Prop
  | intro {argument : List Char} (h : SpellsArgument a argument) :
      Spells a (a.mark.toList ++ argument)

end FieldAttribute

/-- What stands in front of the attributes. -/
def Field.declaration (f : Field) : List Char :=
  f.name.toList ++ ' ' :: f.typeLabel.toList

/-- The comment at the end of the line. -/
def commentText : Option String → List Char
  | none => []
  | some text => " // ".toList ++ text.toList

/-- A line for the field, with its attributes in any order. -/
inductive Field.Spells (f : Field) : List Char → Prop
  | intro {attributes : List FieldAttribute} {texts : List (List Char)} (hname : IsName f.name)
      (htype : IsName f.baseType) (hattributes : attributes.Perm f.attributes)
      (htexts : List.Forall₂ FieldAttribute.Spells attributes texts)
      (hcomment : ∀ text ∈ f.comment, Unpadded text.toList) :
      f.Spells (f.declaration ++ texts.flatMap (' ' :: ·) ++ commentText f.comment)

open FieldAttribute

/-! ### The text of an attribute -/

theorem stateAfter_argument {argument : List Char} (hquote : '"' ∉ argument)
    (hslashes : ¬ "//".toList <:+: argument) : (stateAfter argument).inCode := by
  have hliteral := LineState.not_inLiteral_after (s := .code) Bool.false_ne_true hquote
  refine LineState.inCode_of_not_inLiteral hliteral (stateAfter_ne_comment_iff.2 ?_)
  rintro front back rfl
  exact absurd ⟨front, back, by simp⟩ hslashes

/-- The end of an argument that is followed by a parenthesis. -/
theorem after_parenthesis {cs : List Char} (h : (stateAfter cs).inCode) :
    LineState.code.after (cs ++ [')']) = .code := by
  rw [LineState.after_append]
  exact LineState.next_of_inCode h (by decide) (by decide)

theorem IsNativeType.after_eq {type : String} (h : IsNativeType type) :
    LineState.code.after type.toList = .code := by
  have hword : ∀ {word : String}, IsName word → LineState.code.after word.toList = .code :=
    fun h => (isArgumentText_of_isPlain fun c hc => isPlain_of_isWord (h.isWord c hc)).after_eq
  cases h with
  | word h => exact hword h
  | @applied word argument h hargument hslashes =>
    have hquote : '"' ∉ argument.toList := fun hmem => hargument _ hmem (by simp)
    have hend := after_parenthesis (stateAfter_argument hquote hslashes)
    have htext : (word ++ ("(" ++ argument ++ ")")).toList =
        word.toList ++ '(' :: (argument.toList ++ [')']) := by simp
    rw [htext, LineState.after_append, hword h]
    exact hend

theorem IsNativeType.at_notMem {type : String} (h : IsNativeType type) : '@' ∉ type.toList := by
  have hword : ∀ {word : String}, IsName word → '@' ∉ word.toList :=
    fun h hmem => (isPlain_of_isWord (h.isWord _ hmem)).ne_at rfl
  cases h with
  | word h => exact hword h
  | applied h hargument =>
    simp only [String.toList_append, List.mem_append, not_or]
    exact ⟨hword h, ⟨by decide, fun hmem => hargument _ hmem (by simp)⟩, by decide⟩

theorem IsNativeType.unpadded {type : String} (h : IsNativeType type) : Unpadded type.toList := by
  cases h with
  | word h => exact h.unpadded
  | @applied word argument h =>
    have hbehind : Unpadded ("(" ++ argument ++ ")").toList := by
      simpa using Unpadded.cons_concat (c := '(') (d := ')') (by decide) (by decide) argument.toList
    simpa using h.unpadded.append hbehind []

/-- The text is the text of an attribute: `@` occurs at its start only, and behind it a line goes on
as in front of it. -/
structure IsAttributeText (cs : List Char) : Prop where
  exists_eq_cons : ∃ rest, cs = '@' :: rest ∧ '@' ∉ rest
  unpadded : Unpadded cs
  after_eq : LineState.code.after cs = .code

namespace FieldAttribute

theorem mark_mem (a : FieldAttribute) : a.mark ∈ marks := by
  cases a <;> simp [mark, marks]

theorem SpellsArgument.after_eq {a : FieldAttribute} {argument : List Char}
    (h : SpellsArgument a argument) : LineState.code.after argument = .code := by
  cases h with
  | identifier | unique => rfl
  | default h =>
    exact after_parenthesis (h.balanced.inCode_stateAfter (stateAfter_ne_comment_iff.2 h.slashes))
  | native h => exact h.after_eq
  | relation _ h =>
    refine after_parenthesis ?_
    rw [stateAfter, h.writtenAs.isArgumentText.after_eq]
    rfl

theorem SpellsArgument.at_notMem {a : FieldAttribute} {argument : List Char}
    (h : SpellsArgument a argument) : '@' ∉ argument := by
  cases h with
  | identifier | unique => exact List.not_mem_nil
  | default h => simpa using h.at_notMem
  | native h => exact h.at_notMem
  | relation hname h => simpa using h.at_notMem hname

/-- What the text of an attribute ends with is not blank. -/
theorem SpellsArgument.unpadded {a : FieldAttribute} {argument : List Char}
    (h : SpellsArgument a argument) : Unpadded ('@' :: (a.mark.toList.tail ++ argument)) := by
  cases h with
  | identifier | unique => decide
  | default | relation =>
    rw [← List.append_assoc]
    exact .cons_concat (by decide) (by decide) _
  | native h =>
    have hat : Unpadded ['@'] := by decide
    exact hat.append h.unpadded _

theorem Spells.isAttributeText {a : FieldAttribute} {cs : List Char} (h : a.Spells cs) :
    IsAttributeText cs := by
  obtain ⟨h⟩ := h
  rename_i argument
  have hmarks : ∀ mark ∈ marks, mark.toList = '@' :: mark.toList.tail ∧ '@' ∉ mark.toList.tail ∧
      LineState.code.after mark.toList = .code := by decide
  obtain ⟨hhead, hnotMem, hcode⟩ := hmarks a.mark a.mark_mem
  have htext : a.mark.toList ++ argument = '@' :: (a.mark.toList.tail ++ argument) := by
    rw [← List.cons_append, ← hhead]
  refine ⟨⟨_, htext, ?_⟩, htext ▸ h.unpadded, ?_⟩
  · rw [List.mem_append, not_or]
    exact ⟨hnotMem, h.at_notMem⟩
  · rw [LineState.after_append, hcode, h.after_eq]

/-! ### Searches -/

theorem after?_mark_eq_none {mark : String} (hmark : mark ∈ marks) {c : Char} (hc : c ≠ '@')
    (rest : List Char) : after? mark (c :: rest) = none := by
  have hmarks : ∀ mark ∈ marks, mark.toList.head? = some '@' := by decide
  refine Option.eq_none_iff_forall_ne_some.2 fun behind h => hc ?_
  obtain ⟨tail, htail⟩ := List.head?_eq_some_iff.1 (hmarks mark hmark)
  have heq := eq_append_of_after? h
  rw [htail] at heq
  exact (List.cons.inj heq).1

/-- A search for attributes, which succeeds at no other character than `@`. -/
structure FindsAttribute {β : Type} (read : List Char → Option β)
    (value : FieldAttribute → Option β) : Prop where
  finds : Finds Spells (fun _ => read) value
  other : ∀ {c}, c ≠ '@' → ∀ rest, read (c :: rest) = none

/-- A search for what stands behind a mark finds the attribute with this mark. -/
theorem finds_attribute {β : Type} {read : List Char → Option β}
    {value : FieldAttribute → Option β} {mark : String} (hmark : mark ∈ marks)
    (hvalue : ∀ a, (value a).isSome ↔ a.mark = mark)
    (hnone : ∀ here, after? mark here = none → read here = none)
    (hsome : ∀ {a argument b}, SpellsArgument a argument → value a = some b → ∀ {rest},
      EndsItem rest → read (mark.toList ++ (argument ++ rest)) = some b) :
    FindsAttribute read value := by
  have hother : ∀ {c}, c ≠ '@' → ∀ rest, read (c :: rest) = none :=
    fun hc rest => hnone _ (after?_mark_eq_none hmark hc rest)
  refine ⟨?_, hother⟩
  constructor
  case nil =>
    have hmarks : ∀ mark ∈ marks, mark.toList ≠ [] := by decide
    exact fun _ => hnone [] (after?_nil (hmarks mark hmark))
  case gap => exact fun _ c hc rest => hother (isPlain_of_isGap hc).ne_at rest
  case hit =>
    rintro a cs b ⟨h⟩ hb before rest - hrest
    obtain rfl := (hvalue a).1 (by simp [hb])
    rw [List.append_assoc]
    exact hsome h hb hrest
  case miss =>
    intro a cs h hb before here rest hne hhere hrest
    obtain ⟨body, hbody, hnotMem⟩ := h.isAttributeText.exists_eq_cons
    rw [hbody, List.suffix_cons_iff, ← hbody] at hhere
    obtain rfl | hhere := hhere
    · have hmark' : a.mark ≠ mark := fun heq => by simpa [hb] using (hvalue a).2 heq
      have hmarks : ∀ mark ∈ marks, ∀ mark' ∈ marks, mark.toList <+: mark'.toList →
          mark = mark' := by decide
      obtain ⟨h⟩ := h
      rw [List.append_assoc]
      refine hnone _ (after?_append_of_not_isPrefix (fun hprefix => hmark' ?_)
        (fun hprefix => hmark' ?_) _)
      · exact (hmarks mark hmark a.mark a.mark_mem hprefix).symm
      · exact hmarks a.mark a.mark_mem mark hmark hprefix
    · obtain ⟨c, here, rfl⟩ := List.exists_cons_of_ne_nil hne
      refine hother (fun heq => hnotMem ?_) _
      exact heq ▸ hhere.mem List.mem_cons_self

/-- A marker is followed by a blank or by nothing. -/
theorem finds_marker {mark : String} (hmark : mark ∈ marks) {value : FieldAttribute → Option Unit}
    (hvalue : ∀ a, (value a).isSome ↔ a.mark = mark)
    (hargument : ∀ {a argument}, SpellsArgument a argument → value a = some () → argument = []) :
    FindsAttribute (Attribute.startsWithMarker? mark) value := by
  refine finds_attribute hmark hvalue (fun here h => ?_) fun h ha rest hrest => ?_
  · simp only [Attribute.startsWithMarker?, h]
  · obtain rfl := hargument h ha
    have hword : rest.head?.any isWord = false := by
      cases hhead : rest.head? with
      | none => rfl
      | some c => simpa using not_isWord_of_isGap (hrest c hhead)
    simp [Attribute.startsWithMarker?, after?_append, hword]

/-- An argument that is written in parentheses is read up to the closing one. -/
theorem finds_argument {β : Type} {mark : String} (hmark : mark ∈ marks)
    {value : FieldAttribute → Option β} (hvalue : ∀ a, (value a).isSome ↔ a.mark = mark)
    (parse : List Char → β)
    (hargument : ∀ {a argument b}, SpellsArgument a argument → value a = some b →
      ∃ inner, argument = inner ++ [')'] ∧ Balanced inner ∧ parse (trim inner) = b) :
    FindsAttribute (fun here => (after? mark here).map fun rest =>
      parse (Attribute.argumentText rest)) value := by
  refine finds_attribute hmark hvalue (fun here h => ?_) fun h hb rest _ => ?_
  · simp only [h, Option.map_none]
  · obtain ⟨inner, rfl, hbalanced, rfl⟩ := hargument h hb
    rw [after?_append, Option.map_some, List.append_assoc, List.singleton_append,
      Attribute.argumentText_of_balanced hbalanced]

theorem nativeTypeAt?_of_isNativeType {type : String} (h : IsNativeType type) {rest : List Char}
    (hrest : EndsItem rest) :
    Attribute.nativeTypeAt? ("@db.".toList ++ (type.toList ++ rest)) = some type := by
  cases h with
  | word h =>
    have hspan : spanWord (type.toList ++ rest) = (type.toList, rest) := by
      rw [spanWord_append_of_head? fun c hc => not_isWord_of_isGap (hrest c hc),
        spanWord_of_isWord h.isWord]
      rfl
    have hopen : ∀ inner, rest ≠ '(' :: inner := by
      rintro inner rfl
      exact absurd (hrest '(' rfl) (by simp [IsGap, isBlank])
    simp only [Attribute.nativeTypeAt?, after?_append, hspan]
    split
    next hempty => exact absurd (congrArg Prod.fst hempty) h.ne_nil
    next inner _ heq => exact absurd (congrArg Prod.snd heq) (hopen inner)
    next heq =>
      obtain rfl := congrArg Prod.fst heq
      rw [String.ofList_toList]
  | @applied word argument h hargument =>
    have hclose : ')' ∉ argument.toList := fun hmem => hargument _ hmem (by simp)
    have htext : (word ++ ("(" ++ argument ++ ")")).toList ++ rest =
        word.toList ++ '(' :: (argument.toList ++ ')' :: rest) := by simp
    have hspan : spanWord (word.toList ++ '(' :: (argument.toList ++ ')' :: rest)) =
        (word.toList, '(' :: (argument.toList ++ ')' :: rest)) :=
      spanWord_append_cons h.isWord (by decide) _
    obtain ⟨c, chars, hchars⟩ := List.exists_cons_of_ne_nil h.ne_nil
    rw [hchars] at hspan
    simp only [Attribute.nativeTypeAt?, htext, hchars, after?_append, hspan,
      cutFirst?_append_cons hclose]
    have htype : word.toList ++ '(' :: argument.toList ++ [')'] =
        (word ++ ("(" ++ argument ++ ")")).toList := by simp
    rw [← hchars, htype, String.ofList_toList]

theorem finds_identifier : FindsAttribute (Attribute.startsWithMarker? "@id") identifier? := by
  refine finds_marker (by decide) (fun a => ?_) fun h ha => ?_
  · cases a <;> simp [identifier?, mark]
  · cases h with
    | identifier => rfl
    | _ => cases ha

theorem finds_unique : FindsAttribute (Attribute.startsWithMarker? "@unique") unique? := by
  refine finds_marker (by decide) (fun a => ?_) fun h ha => ?_
  · cases a <;> simp [unique?, mark]
  · cases h with
    | unique => rfl
    | _ => cases ha

theorem finds_default : FindsAttribute (fun here => (after? "@default(" here).map fun rest =>
    String.ofList (Attribute.argumentText rest)) default? := by
  refine finds_argument (by decide) (fun a => ?_) String.ofList fun h ha => ?_
  · cases a <;> simp [default?, mark]
  · cases h with
    | default h =>
      obtain rfl := Option.some.inj ha
      exact ⟨_, rfl, h.balanced, by rw [h.trim_eq, String.ofList_toList]⟩
    | _ => cases ha

theorem finds_relation : FindsAttribute (fun here => (after? "@relation(" here).map fun rest =>
    Attribute.relationClauses (Attribute.argumentText rest)) relation? := by
  refine finds_argument (by decide) (fun a => ?_) Attribute.relationClauses fun h ha => ?_
  · cases a <;> simp [relation?, mark]
  · cases h with
    | relation _ h =>
      obtain rfl := Option.some.inj ha
      exact ⟨_, rfl, h.writtenAs.isArgumentText.balanced, h.writtenAs.relationClauses_trim⟩
    | _ => cases ha

theorem finds_native : FindsAttribute Attribute.nativeTypeAt? native? := by
  have hmark : "@db." ∈ marks := by decide
  refine finds_attribute hmark (fun a => ?_) (fun here h => ?_) fun h ha rest hrest => ?_
  · cases a <;> simp [native?, mark]
  · simp only [Attribute.nativeTypeAt?, h]
  · cases h with
    | native h => exact Option.some.inj ha ▸ nativeTypeAt?_of_isNativeType h hrest
    | _ => cases ha

end FieldAttribute

/-! ### The line -/

/-- What the attributes of a field say. -/
theorem Field.filterMap_attributes (f : Field) :
    f.attributes.filterMap identifier? = (if f.isId then some () else none).toList ∧
      f.attributes.filterMap unique? = (if f.isUnique then some () else none).toList ∧
      f.attributes.filterMap default? = f.defaultExpr.toList ∧
      f.attributes.filterMap native? = f.nativeType.toList ∧
      f.attributes.filterMap FieldAttribute.relation? = f.relation.toList := by
  obtain ⟨name, baseType, kind, isList, isOptional, isId, isUnique, defaultExpr, relation,
    nativeType, comment, line⟩ := f
  cases isId <;> cases isUnique <;> cases defaultExpr <;> cases nativeType <;> cases relation <;>
    exact ⟨rfl, rfl, rfl, rfl, rfl⟩

/-- What is written behind the base type for a list and for an optional field. -/
def typeMarkers (isList isOptional : Bool) : List Char :=
  (if isList then "[]".toList else []) ++ if isOptional then ['?'] else []

theorem toList_typeLabel (f : Field) :
    f.typeLabel.toList = f.baseType.toList ++ typeMarkers f.isList f.isOptional := by
  cases hlist : f.isList <;> cases hoptional : f.isOptional <;>
    simp [Field.typeLabel, typeMarkers, hlist, hoptional]

section

variable {front : List Char} {texts : List (List Char)}

theorem isPlain_declaration {f : Field} (hname : IsName f.name) (htype : IsName f.baseType) :
    ∀ c ∈ f.declaration, IsPlain c := by
  have hmarkers : ∀ c ∈ typeMarkers f.isList f.isOptional, IsPlain c := by
    cases f.isList <;> cases f.isOptional <;> simp [typeMarkers, IsPlain]
  intro c hc
  rw [Field.declaration, toList_typeLabel] at hc
  obtain hc | rfl | hc | hc := by simpa using hc
  · exact isPlain_of_isWord (hname.isWord c hc)
  · exact isPlain_of_isGap (isGap_blank ' ' List.mem_cons_self)
  · exact isPlain_of_isWord (htype.isWord c hc)
  · exact hmarkers c hc

theorem unpadded_declaration {f : Field} (hname : IsName f.name) (htype : IsName f.baseType) :
    Unpadded f.declaration := by
  have hmarkers : typeMarkers f.isList f.isOptional = [] ∨
      Unpadded (typeMarkers f.isList f.isOptional) := by
    cases f.isList <;> cases f.isOptional
    · exact .inl rfl
    all_goals exact .inr (by decide)
  have htypeLabel : Unpadded f.typeLabel.toList := by
    rw [toList_typeLabel]
    obtain hnil | hmarkers := hmarkers
    · rw [hnil, List.append_nil]
      exact htype.unpadded
    · exact htype.unpadded.append hmarkers []
  exact hname.unpadded.append htypeLabel [' ']

theorem unpadded_append_attributes (hfront : Unpadded front)
    (htexts : ∀ cs ∈ texts, IsAttributeText cs) :
    Unpadded (front ++ texts.flatMap (' ' :: ·)) := by
  induction texts generalizing front with
  | nil => simpa using hfront
  | cons cs texts ih =>
    obtain ⟨hcs, htexts⟩ := List.forall_mem_cons.1 htexts
    have hcode := ih (hfront.append hcs.unpadded [' ']) htexts
    simpa using hcode

theorem after_attributes (htexts : ∀ cs ∈ texts, IsAttributeText cs) :
    LineState.code.after (texts.flatMap (' ' :: ·)) = .code := by
  induction texts with
  | nil => rfl
  | cons cs texts ih =>
    obtain ⟨hcs, htexts⟩ := List.forall_mem_cons.1 htexts
    rw [List.flatMap_cons, List.cons_append, LineState.after_cons, LineState.after_append]
    have hblank : LineState.code.next ' ' = .code := rfl
    rw [hblank, hcs.after_eq, ih htexts]

theorem first?_attributes {β : Type} {read : List Char → Option β}
    {value : FieldAttribute → Option β} (hfinds : FindsAttribute read value) (hfront : '@' ∉ front)
    {f : Field}
    {attributes : List FieldAttribute} (hattributes : attributes.Perm f.attributes)
    (htexts : List.Forall₂ FieldAttribute.Spells attributes texts) {o : Option β}
    (hvalue : f.attributes.filterMap value = o.toList) :
    first? (fun _ => read) (front ++ texts.flatMap (' ' :: ·)) = o := by
  have hskip : first? (fun _ => read) (front ++ texts.flatMap (' ' :: ·)) = _ :=
    firstFrom?_append fun _ here hne hhere => by
      obtain ⟨c, here, rfl⟩ := List.exists_cons_of_ne_nil hne
      exact hfinds.other (fun heq => hfront (heq ▸ hhere.mem List.mem_cons_self)) _
  rw [hskip, firstFrom?_flatMap hfinds.finds htexts]
  exact findSome?_of_perm hattributes hvalue

end

theorem head?_typeMarkers_append (isList isOptional : Bool) {rest : List Char}
    (hrest : EndsItem rest) : ∀ c ∈ (typeMarkers isList isOptional ++ rest).head?, ¬ isWord c := by
  intro c hc
  cases isList <;> cases isOptional
  · exact not_isWord_of_isGap (hrest c hc)
  all_goals
    obtain rfl := Option.some.inj hc
    decide

theorem after?_typeMarkers_append (isList isOptional : Bool) {rest : List Char}
    (hrest : EndsItem rest) :
    (after? "[]" (typeMarkers isList isOptional ++ rest)).isSome = isList ∧
      (((after? "[]" (typeMarkers isList isOptional ++ rest)).getD
        (typeMarkers isList isOptional ++ rest)).head? == some '?') = isOptional := by
  have hquestion : rest.head? ≠ some '?' := fun hhead => by
    simpa [IsGap, isBlank] using hrest '?' hhead
  have hlist : after? "[]" rest = none := by
    refine Option.eq_none_iff_forall_ne_some.2 fun behind h => ?_
    obtain rfl := eq_append_of_after? h
    simpa [IsGap, isBlank] using hrest '[' rfl
  cases isList with
  | true =>
    have hafter : after? "[]" (typeMarkers true isOptional ++ rest) =
        some ((if isOptional then ['?'] else []) ++ rest) := after?_append "[]" _
    rw [hafter]
    cases isOptional <;> simp [hquestion]
  | false =>
    cases isOptional with
    | true => exact ⟨rfl, rfl⟩
    | false => simp [typeMarkers, hlist, hquestion]

theorem FieldSignature.read?_declaration {f : Field} (hname : IsName f.name)
    (htype : IsName f.baseType) {rest : List Char} (hrest : EndsItem rest) :
    FieldSignature.read? (f.declaration ++ rest) =
      some ⟨f.name.toList, f.baseType.toList, f.isList, f.isOptional⟩ := by
  have htext : f.declaration ++ rest = f.name.toList ++
      ' ' :: (f.baseType.toList ++ (typeMarkers f.isList f.isOptional ++ rest)) := by
    simp [Field.declaration, toList_typeLabel]
  have hspan : spanWord (f.declaration ++ rest) = (f.name.toList,
      ' ' :: (f.baseType.toList ++ (typeMarkers f.isList f.isOptional ++ rest))) := by
    rw [htext, spanWord_append_cons hname.isWord (by decide)]
  have htrim := trimLeft_append_of_isWord htype.ne_nil htype.isWord
    (typeMarkers f.isList f.isOptional ++ rest)
  have hspanType : spanWord (f.baseType.toList ++ (typeMarkers f.isList f.isOptional ++ rest)) =
      (f.baseType.toList, typeMarkers f.isList f.isOptional ++ rest) := by
    rw [spanWord_append_of_head? (head?_typeMarkers_append _ _ hrest),
      spanWord_of_isWord htype.isWord]
    rfl
  obtain ⟨hlist, hoptional⟩ := after?_typeMarkers_append f.isList f.isOptional hrest
  obtain ⟨c, name, hnameChars⟩ := List.exists_cons_of_ne_nil hname.ne_nil
  obtain ⟨d, type, htypeChars⟩ := List.exists_cons_of_ne_nil htype.ne_nil
  rw [hnameChars] at hspan
  rw [htypeChars] at hspanType htrim hspan
  have hblank : isBlank ' ' = true := by decide
  simp only [FieldSignature.read?, hspan, hblank, if_true, htrim, hspanType, hlist, hoptional,
    hnameChars, htypeChars]

/-- The comment is set apart from the code, and nothing is lost of either. -/
theorem Attribute.codeAndComment_trim {code : List Char} (hcode : stateAfter code = .code)
    (hunpadded : Unpadded code) {comment : Option String}
    (hcomment : ∀ text ∈ comment, Unpadded text.toList) :
    Attribute.codeAndComment (trim (code ++ commentText comment)) = (code, comment) := by
  cases comment with
  | none =>
    have hne : stateAfter code ≠ .comment := by simp [hcode]
    have hright : trimRight code = code := hunpadded.trimRight_append []
    rw [commentText, List.append_nil, hunpadded.trim_eq, codeAndComment_of_ne_comment hne, hright]
  | some text =>
    have htext := hcomment text rfl
    have hline : code ++ commentText (some text) =
        (code ++ [' ']) ++ '/' :: '/' :: (' ' :: text.toList) := by simp [commentText]
    have htrim : trim (code ++ commentText (some text)) = code ++ commentText (some text) :=
      (hunpadded.append htext " // ".toList).trim_eq
    have hstate : stateAfter (code ++ [' ']) = .code := by
      rw [stateAfter, LineState.after_append, ← stateAfter, hcode]
      rfl
    have hright : trimRight (code ++ [' ']) = code := by
      rw [trimRight_append_of_all_isBlank (by simp [isBlank])]
      exact hunpadded.trimRight_append []
    have hinner : trim (' ' :: text.toList) = text.toList := by
      have hblank : ∀ c ∈ [' '], isBlank c := by simp [isBlank]
      simpa using htext.trim_padded hblank (List.forall_mem_nil _)
    have hne : text.toList ≠ [] := by
      intro hnil
      obtain ⟨c, hc, -⟩ := htext.first
      simp [hnil] at hc
    rw [htrim, hline, codeAndComment_append_slashes hstate, hright, hinner, if_neg hne,
      String.ofList_toList]

/-- A line is read as the field that it spells. -/
theorem Field.read?_of_spells {f : Field} {line : List Char} (h : f.Spells line)
    (enums : List String) (number : Nat) :
    Field.read? enums none number line =
      some { f with kind := .ofType enums f.baseType, line := number } := by
  obtain ⟨hname, htype, hattributes, htexts, hcomment⟩ := h
  rename_i attributes texts
  have hattributeTexts : ∀ cs ∈ texts, IsAttributeText cs :=
    forall_mem_of_forall₂ htexts fun _ _ hspells => hspells.isAttributeText
  have hplain : ∀ c ∈ f.declaration, IsPlain c := isPlain_declaration hname htype
  have hfront : '@' ∉ f.declaration := fun hmem => (hplain _ hmem).ne_at rfl
  have hunpadded : Unpadded (f.declaration ++ texts.flatMap (' ' :: ·)) :=
    unpadded_append_attributes (unpadded_declaration hname htype) hattributeTexts
  have hcode : stateAfter (f.declaration ++ texts.flatMap (' ' :: ·)) = .code := by
    rw [stateAfter, LineState.after_append, (isArgumentText_of_isPlain hplain).after_eq,
      after_attributes hattributeTexts]
  have hcut := Attribute.codeAndComment_trim hcode hunpadded hcomment
  have hsignature := FieldSignature.read?_declaration hname htype (endsItem_flatMap texts)
  have hfound {β : Type} {read : List Char → Option β} {value : FieldAttribute → Option β}
      {o : Option β} (hfinds : FindsAttribute read value)
      (hvalue : f.attributes.filterMap value = o.toList) :
      first? (fun _ => read) (f.declaration ++ texts.flatMap (' ' :: ·)) = o :=
    first?_attributes hfinds hfront hattributes htexts hvalue
  obtain ⟨hid, hunique, hdefault, hnative, hrelation⟩ := f.filterMap_attributes
  generalize f.declaration ++ texts.flatMap (' ' :: ·) = code at hcut hsignature hfound ⊢
  have hmarkedId : Attribute.hasMarker "@id" code = f.isId := by
    rw [Attribute.hasMarker_eq, hfound finds_identifier hid]
    cases f.isId <;> rfl
  have hmarkedUnique : Attribute.hasMarker "@unique" code = f.isUnique := by
    rw [Attribute.hasMarker_eq, hfound finds_unique hunique]
    cases f.isUnique <;> rfl
  have hexpr : Attribute.defaultExpr? code = f.defaultExpr :=
    (map_firstFrom? _ none code).trans (hfound finds_default hdefault)
  have hr : Attribute.relation? code = f.relation :=
    (map_firstFrom? _ none code).trans (hfound finds_relation hrelation)
  have htype : Attribute.nativeType? code = f.nativeType := hfound finds_native hnative
  have hown : (f.comment <|> none) = f.comment := by
    cases f.comment <;> rfl
  simp only [Field.read?, hcut, hsignature, Option.map_some, hmarkedId, hmarkedUnique, hexpr, hr,
    htype, hown, String.ofList_toList]

/-- The words of the clauses and the marks of attributes may stand in the name of a relation, in a
string and in a comment. -/
theorem Field.read?_of_spells_every_attribute :
    let f : Field := {
      name := "by", baseType := "User", kind := .relation, isOptional := true, isId := true
      isUnique := true, defaultExpr := some "g(\"x(//\\\")\")"
      relation := some {
        name := some "//)", fields := ["a", "b"], references := ["id"], onDelete := some "None" }
      nativeType := some "Char(36)", comment := some "@id // @db.T", line := 7 }
    let line := ("by User? @relation(\"//)\", onDelete: None, references: [id], fields: [a, b]) " ++
      "@db.Char(36) @default(g(\"x(//\\\")\")) @unique @id // @id // @db.T").toList
    f.Spells line ∧ Field.read? ["Role"] none 7 line = some f := by
  intro f line
  have hexpr : IsExpression "g(\"x(//\\\")\")".toList := by
    have htext : "g(\"x(//\\\")\")".toList =
        'g' :: '(' :: ('"' :: ("x(//\\\")".toList ++ ['"']) ++ [')']) := by decide
    have hliteral : isLiteralText "x(//\\\")".toList := by decide +kernel
    refine ⟨?_, by decide, by decide, stateAfter_ne_comment_iff.1 (by decide)⟩
    rw [htext]
    exact .plain (by decide) (.parentheses (.literal hliteral .nil) .nil)
  have hblank : ∀ c ∈ [' '], isBlank c := by simp [isBlank]
  have hnone : ∀ c ∈ ([] : List Char), isBlank c := List.forall_mem_nil _
  have hnative : IsNativeType "Char(36)" := by
    have htext : "Char" ++ ("(" ++ "36" ++ ")") = "Char(36)" := by decide
    rw [← htext]
    exact .applied (by decide) (by simp) (by decide)
  have hargs : Relation.Spells (f.relation.getD {})
      "\"//)\", onDelete: None, references: [id], fields: [a, b]".toList := by
    have hparts : [RelationPart.onDelete "None", .references ["id"], .fields ["a", "b"]].Perm
        (f.relation.getD {}).clauses := List.reverse_perm (f.relation.getD {}).clauses
    have hentries : CommaSeparated RelationPart.IsEntry ["a", "b"]
        ("a".toList ++ (([] ++ ',' :: [' ']) ++ "b".toList)) :=
      .cons ⟨by decide, rfl⟩ hnone hblank (.single ⟨by decide, rfl⟩)
    have hentry : CommaSeparated RelationPart.IsEntry ["id"] "id".toList :=
      .single ⟨by decide, rfl⟩
    have h := Relation.Spells.intro (r := f.relation.getD {}) hparts hnone
      (.cons (.bare (.name (by simp))) hnone hblank
        (.cons (.keyed hblank (.onDelete (by decide))) hnone hblank
          (.cons (.keyed hblank (.references (.intro hnone hentry hnone))) hnone hblank
            (.single (.keyed hblank (.fields (.intro hnone hentries hnone))))))) hnone
    exact Eq.mp (congrArg (Relation.Spells _) (by decide +kernel)) h
  have hattributes : [FieldAttribute.relation (f.relation.getD {}), .native "Char(36)",
      .default "g(\"x(//\\\")\")", .unique, .identifier].Perm f.attributes :=
    List.reverse_perm f.attributes
  have hcomment : ∀ text ∈ f.comment, Unpadded text.toList := by
    rintro text ⟨⟩
    decide
  have h : f.Spells line := by
    have h := Field.Spells.intro (by decide) (by decide) hattributes
      (.cons ⟨.relation (by decide) hargs⟩ (.cons ⟨.native hnative⟩ (.cons ⟨.default hexpr⟩
        (.cons ⟨.unique⟩ (.cons ⟨.identifier⟩ .nil))))) hcomment
    exact Eq.mp (congrArg f.Spells (by decide +kernel)) h
  have hkind : FieldKind.ofType ["Role"] "User" = .relation := by decide
  refine ⟨h, (Field.read?_of_spells h ["Role"] 7).trans ?_⟩
  exact congrArg (fun kind => some { f with kind }) hkind

end SchemaAtlas

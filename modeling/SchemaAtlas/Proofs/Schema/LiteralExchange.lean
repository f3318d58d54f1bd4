import SchemaAtlas.Proofs.Schema.LineState
import SchemaAtlas.Proofs.Text.Searching
import SchemaAtlas.Schema.FieldLine

/-!
# String literals on field lines

Every reader of a field line searches the line for a word and reads what follows.  No such word has
a quote in it, so a search goes through the line in front of a string literal, through the text of
the literal and through the line behind it, and it passes over a text in which the word does not occur
(`hasMarker_append_cons`, `nativeType?_literal`, `argument?_literal_outside`, `listClause?_literal`,
`wordClause?_literal`).  A literal inside an argument is a part of it
(`argument?_literal_inside`).

Main statement: to exchange the text of a string literal changes a field only in what the literal is
a part of, as long as the texts do not spell the words that are searched for
(`Field.read?_exchange`).  A text that does acts as an attribute, and the argument of a native type
is kept as written (`Field.read?_changes_with_literal`).
-/

namespace SchemaAtlas

open Text

/-! ### The signature of a field -/

theorem FieldSignature.read?_append_cons (front back : List Char) :
    FieldSignature.read? (front ++ '"' :: back) = FieldSignature.read? front := by
  have hspan : ∀ cs, spanWord (cs ++ '"' :: back) =
      ((spanWord cs).1, (spanWord cs).2 ++ '"' :: back) :=
    fun cs => spanWord_append_cons_of_not_isWord (by decide) cs back
  have hleft : ∀ cs, trimLeft (cs ++ '"' :: back) = trimLeft cs ++ '"' :: back :=
    fun cs => trimLeft_append_cons (by decide) cs back
  have hlist : ∀ cs, after? "[]" (cs ++ '"' :: back) = (after? "[]" cs).map (· ++ '"' :: back) :=
    fun cs => after?_append_cons (by decide) cs back
  have hhead : ∀ cs : List Char,
      ((cs ++ '"' :: back).head? == some '?') = (cs.head? == some '?') := by
    intro cs
    cases cs <;> rfl
  unfold FieldSignature.read?
  rw [hspan]
  rcases hname : spanWord front with ⟨name, behindName⟩
  cases name with
  | nil => rfl
  | cons n name =>
    cases behindName with
    | nil => rfl
    | cons c behindName =>
      simp only [List.cons_append]
      split_ifs with hc
      · rw [hleft, hspan]
        rcases htype : spanWord (trimLeft behindName) with ⟨baseType, behindType⟩
        cases baseType with
        | nil => rfl
        | cons t baseType =>
          simp only [hlist, Option.isSome_map]
          cases after? "[]" behindType <;>
            simp only [Option.map_none, Option.map_some, Option.getD, hhead]
      · rfl

namespace Attribute

/-! ### Code and comment -/

/-- The text of a literal is part of the code of a line, and the comment begins behind it. -/
theorem codeAndComment_literal {front : List Char} (hfront : (stateAfter front).inCode)
    (back : List Char) :
    ∃ code comment, ∀ text, isLiteralText text →
      codeAndComment (trim (front ++ '"' :: (text ++ '"' :: back))) =
        (trimLeft front ++ '"' :: (text ++ '"' :: code), comment) := by
  refine ⟨trimRight (cutComment false (trimRight back)).1, (codeAndComment (trimRight back)).2,
    fun text htext => ?_⟩
  have hleft : (stateAfter (trimLeft front)).inCode := by rwa [stateAfter_trimLeft]
  have hcut : cutComment false (trimLeft front ++ '"' :: (text ++ '"' :: trimRight back)) =
      (trimLeft front ++ '"' :: (text ++ '"' :: (cutComment false (trimRight back)).1),
        (cutComment false (trimRight back)).2) := by
    rw [cutComment_append_of_inCode hleft (by simp), cutComment_code (by simp)]
    simp only [beq_self_eq_true, cutComment_literal htext]
  rw [trim_append_cons (by decide), trimRight_append_cons (by decide)]
  simp only [codeAndComment, hcut, trimRight_append_cons (show ¬ isBlank '"' by decide)]

/-! ### Markers -/

/-- The text starts with the marker, and no longer word goes on behind it. -/
def startsWithMarker? (marker : String) (cs : List Char) : Option Unit :=
  match after? marker cs with
  | some rest => if rest.head?.any isWord then none else some ()
  | none => none

theorem hasMarker_eq (marker : String) (cs : List Char) :
    hasMarker marker cs = (first? (fun _ => startsWithMarker? marker) cs).isSome := rfl

/-- A marker stands on one side of a character that is neither part of it nor of a word. -/
theorem hasMarker_append_cons {marker : String} (hne : marker.toList ≠ []) {c : Char}
    (hc : c ∉ marker.toList) (hword : ¬ isWord c) (cs rest : List Char) :
    hasMarker marker (cs ++ c :: rest) = (hasMarker marker cs || hasMarker marker rest) := by
  have hnil : startsWithMarker? marker [] = none := by
    rw [startsWithMarker?, after?_nil hne]
  have hstarts : ∀ here,
      startsWithMarker? marker (here ++ c :: rest) = startsWithMarker? marker here := by
    intro here
    unfold startsWithMarker?
    rw [after?_append_cons hc]
    cases after? marker here with
    | none => rfl
    | some behind =>
      cases behind with
      | nil => simp [hword]
      | cons d behind => rfl
  have hsplit : first? (fun _ => startsWithMarker? marker) (cs ++ c :: rest) = _ :=
    firstFrom?_append_cons (fun _ => hnil) id fun _ here _ => by
      rw [hstarts, Option.map_id]
      rfl
  rw [hasMarker_eq, hsplit, firstFrom?_const _ (some c), Option.isSome_or, Option.isSome_map]
  rfl

/-! ### Native types -/

/-- The text ends inside the argument of a native type. -/
def EndsInNativeArgument (cs : List Char) : Prop :=
  ∃ here word inner, here <:+ cs ∧ (after? "@db." here).map spanWord = some (word, '(' :: inner) ∧
    word ≠ [] ∧ ')' ∉ inner

theorem nativeTypeAt?_append_cons {here : List Char}
    (h : ∀ word inner, (after? "@db." here).map spanWord = some (word, '(' :: inner) → word ≠ [] →
      ')' ∈ inner) (rest : List Char) :
    nativeTypeAt? (here ++ '"' :: rest) = nativeTypeAt? here := by
  unfold nativeTypeAt?
  rw [after?_append_cons (by decide)]
  cases hbehind : after? "@db." here with
  | none => rfl
  | some behind =>
    simp only [hbehind, Option.map_some, Option.some.injEq] at h ⊢
    rw [spanWord_append_cons_of_not_isWord (by decide)]
    rcases hword : spanWord behind with ⟨word, inner⟩
    cases word with
    | nil => rfl
    | cons w word =>
      cases inner with
      | nil => rfl
      | cons c inner =>
        by_cases hc : c = '('
        · subst hc
          have hclose := h _ _ hword (by simp)
          simp only [List.cons_append, cutFirst?_append_of_mem hclose]
          cases cutFirst? ')' inner <;> rfl
        · simp [hc]

theorem nativeType?_literal {front : List Char} (hfront : ¬ EndsInNativeArgument front)
    {text : List Char} (htext : ¬ "@db.".toList <:+: text) (back : List Char) :
    nativeType? (front ++ '"' :: (text ++ '"' :: back)) =
      (nativeType? front).or (nativeType? back) := by
  have hkept : ∀ here more, here <:+ front →
      nativeTypeAt? (here ++ '"' :: more) = nativeTypeAt? here := by
    intro here more hhere
    refine nativeTypeAt?_append_cons (fun word inner hword hne => ?_) more
    by_contra hclose
    exact hfront ⟨here, word, inner, hhere, hword, hne, hclose⟩
  have hstart : ∀ here, after? "@db." here = none → nativeTypeAt? here = none := by
    intro here hhere
    rw [nativeTypeAt?, hhere]
  refine (first?_append_quoted (fun _ => rfl) (fun _ => hstart) (by decide) ?_ htext back).trans ?_
  · rintro part here more rfl
    exact hkept here more (List.suffix_append part here)
  · rw [firstFrom?_const _ (some '"')]
    rfl

/-! ### Arguments -/

/-- The argument behind the first `word`. -/
def argument? (word : String) (line : List Char) : Option (List Char) :=
  (afterFirst? word line).map argumentText

/-- What the argument behind the first `word` says in front of the end of the text, if the text ends
inside that argument. -/
def argumentFront? (word : String) (cs : List Char) : Option (List Char) :=
  (afterFirst? word cs).bind fun rest =>
    if argumentFrom false 0 rest = rest then some (trimLeft rest) else none

theorem defaultExpr?_eq (line : List Char) :
    defaultExpr? line = (argument? "@default(" line).map String.ofList := by
  rw [argument?, Option.map_map]
  rfl

theorem relation?_eq (line : List Char) :
    relation? line = (argument? "@relation(" line).map relationClauses := by
  rw [argument?, Option.map_map]
  rfl

section

variable {word : String} (hne : word.toList ≠ []) {front : List Char}
include hne

theorem argumentFront?_trimLeft (hword : ∀ c ∈ word.toList, ¬ isBlank c) (cs : List Char) :
    argumentFront? word (trimLeft cs) = argumentFront? word cs := by
  rw [argumentFront?, argumentFront?, afterFirst?_trimLeft hne hword]

variable (hquote : '"' ∉ word.toList)
include hquote

/-- A literal outside of the argument is not read as a part of it. -/
theorem argument?_literal_outside (hfront : argumentFront? word front = none) {text : List Char}
    (htext : ¬ word.toList <:+: text) (back : List Char) :
    argument? word (front ++ '"' :: (text ++ '"' :: back)) =
      (argument? word front).or (argument? word back) := by
  unfold argument?
  rw [afterFirst?_append_cons hne hquote, afterFirst?_append_cons hne hquote,
    afterFirst?_eq_none htext,
    Option.map_none, Option.none_or, Option.map_or, Option.map_map]
  congr 1
  unfold argumentFront? at hfront
  cases hafter : afterFirst? word front with
  | none => rfl
  | some rest =>
    have hclosed : argumentFrom false 0 rest ≠ rest := by
      intro hopen
      simp [hafter, hopen] at hfront
    simp only [Option.map_some, Function.comp_apply, argumentText,
      argumentFrom_append_of_ne hclosed]

/-- A literal inside the argument is a part of it. -/
theorem argument?_literal_inside {arg : List Char} (hfront : argumentFront? word front = some arg)
    (harg : (stateAfter arg).inCode) (back : List Char) :
    ∃ behind, ∀ text, isLiteralText text → argument? word (front ++ '"' :: (text ++ '"' :: back)) =
      some (arg ++ '"' :: (text ++ '"' :: behind)) := by
  obtain ⟨rest, hafter, hrest⟩ := Option.bind_eq_some_iff.1 hfront
  split_ifs at hrest with hopen
  obtain rfl := Option.some.inj hrest
  rw [stateAfter_trimLeft] at harg
  obtain ⟨depth, hargument⟩ := argumentFrom_append_of_eq (s := .code) rfl
    (LineState.agrees_false_iff.2 harg) hopen
  refine ⟨trimRight (argumentFrom false depth back), fun text htext => ?_⟩
  have hliteral : argumentFrom false depth ('"' :: (text ++ '"' :: back)) =
      '"' :: (text ++ '"' :: argumentFrom false depth back) := by
    rw [argumentFrom_code]
    exact congrArg ('"' :: ·) (argumentFrom_literal depth htext back)
  rw [argument?, afterFirst?_append_cons hne hquote, hafter, Option.map_some, Option.some_or,
    Option.map_some, argumentText, hargument, hliteral, trim_append_cons (by decide),
    trimRight_append_cons (by decide)]

end

/-! ### Clauses of a relation -/

/-- What stands behind the place at which the name of a relation begins. -/
def nameFront (arg : List Char) : List Char :=
  match after? "name:" (trimLeft arg) with
  | some rest => trimLeft rest
  | none => trimLeft arg

theorem leadingName?_eq (arg : List Char) :
    leadingName? arg = match nameFront arg with
      | '"' :: inner => (cutFirst? '"' inner).map fun cut => .ofList cut.1
      | _ => none := rfl

theorem nameFront_append_cons (arg rest : List Char) :
    nameFront (arg ++ '"' :: rest) = nameFront arg ++ '"' :: rest := by
  have hquote : ¬ isBlank '"' := by decide
  unfold nameFront
  rw [trimLeft_append_cons hquote, after?_append_cons (by decide)]
  cases after? "name:" (trimLeft arg) with
  | none => rfl
  | some behind => exact trimLeft_append_cons hquote behind rest

theorem stateAfter_nameFront (arg : List Char) : stateAfter (nameFront arg) = stateAfter arg := by
  unfold nameFront
  cases hafter : after? "name:" (trimLeft arg) with
  | none => exact stateAfter_trimLeft arg
  | some behind =>
    rw [← stateAfter_trimLeft arg, eq_append_of_after? hafter]
    exact stateAfter_trimLeft behind

/-- Only a literal at which the name of a relation begins is its name. -/
theorem leadingName?_append_cons {arg : List Char} (harg : (stateAfter arg).inCode)
    (hname : nameFront arg ≠ []) (rest : List Char) :
    leadingName? (arg ++ '"' :: rest) = leadingName? arg := by
  rw [leadingName?_eq, leadingName?_eq, nameFront_append_cons]
  rw [← stateAfter_nameFront] at harg
  cases hfront : nameFront arg with
  | nil => exact absurd hfront hname
  | cons c inner =>
    by_cases hc : c = '"'
    · subst hc
      have hclose : '"' ∈ inner := by
        by_contra hopen
        rw [hfront] at harg
        have hliteral : (stateAfter ('"' :: inner)).inLiteral :=
          LineState.inLiteral_after (s := .quoted) rfl hopen
        cases hstate : stateAfter ('"' :: inner) <;>
          simp_all [LineState.inCode, LineState.inLiteral]
      simp only [List.cons_append, cutFirst?_append_of_mem hclose, Option.map_map]
      rfl
    · simp [hc]

/-- The text ends inside the list that is given for `key`. -/
def EndsInList (key : String) (arg : List Char) : Prop :=
  ∃ part here inner, arg = part ++ here ∧
    clauseValue? key part.getLast? here = some ('[' :: inner) ∧ ']' ∉ inner

section

variable {key : String} (hkey : ∀ c ∈ key.toList, isWord c)

theorem clauseValue?_eq_none {before : Option Char} {here : List Char}
    (h : after? (key ++ ":") here = none) : clauseValue? key before here = none := by
  rw [clauseValue?, h]
  split <;> rfl

include hkey

theorem quote_notMem_key : '"' ∉ (key ++ ":").toList := by
  rw [String.toList_append, List.mem_append]
  rintro (hmem | hmem)
  · exact absurd (hkey _ hmem) (by decide)
  · exact absurd hmem (by decide)

theorem clauseValue?_append_cons (before : Option Char) (here rest : List Char) :
    clauseValue? key before (here ++ '"' :: rest) =
      (clauseValue? key before here).map (· ++ '"' :: rest) := by
  have hboundary :
      atBoundary before (here ++ '"' :: rest).head? = atBoundary before here.head? := by
    cases here with
    | nil => rfl
    | cons => rfl
  unfold clauseValue?
  rw [hboundary, after?_append_cons (quote_notMem_key hkey)]
  split
  · rw [Option.map_map, Option.map_map]
    congr 1
    funext behind
    exact trimLeft_append_cons (by decide) behind rest
  · rfl

/-- A search for a clause passes over a literal that does not spell its key. -/
theorem first?_clause_literal {α : Type} {read : Option Char → List Char → Option α}
    (hread : ∀ before here, clauseValue? key before here = none → read before here = none)
    {arg : List Char} (harg : ∀ part here more, arg = part ++ here →
      read part.getLast? (here ++ '"' :: more) = read part.getLast? here)
    {text : List Char} (htext : ¬ (key ++ ":").toList <:+: text) (rest : List Char) :
    first? read (arg ++ '"' :: (text ++ '"' :: rest)) =
      (first? read arg).or (firstFrom? read (some '"') rest) := by
  have hne : (key ++ ":").toList ≠ [] := by simp
  have hstart : ∀ before here, after? (key ++ ":") here = none → read before here = none :=
    fun before here hhere => hread before here (clauseValue?_eq_none hhere)
  exact first?_append_quoted (fun before => hstart before [] (after?_nil hne)) hstart
    (quote_notMem_key hkey) harg htext rest

/-- Inside a list that is given for `key`, a literal is a part of the list. -/
theorem listClause?_literal {arg : List Char} (harg : ¬ EndsInList key arg) (rest : List Char) :
    ∃ found, ∀ text, ¬ (key ++ ":").toList <:+: text →
      listClause? key (arg ++ '"' :: (text ++ '"' :: rest)) = found := by
  refine ⟨_, fun text htext => first?_clause_literal hkey ?_ ?_ htext rest⟩
  · intro before here hnone
    rw [hnone]
  · intro part here more hpart
    rw [clauseValue?_append_cons hkey]
    cases hvalue : clauseValue? key part.getLast? here with
    | none => rfl
    | some value =>
      match value with
      | [] => rfl
      | c :: inner =>
        by_cases hc : c = '['
        · subst hc
          have hclose : ']' ∈ inner := by
            by_contra hopen
            exact harg ⟨part, here, inner, hpart, hvalue, hopen⟩
          simp only [Option.map_some, List.cons_append, cutFirst?_append_of_mem hclose,
            Option.map_map]
          rfl
        · simp [hc]

theorem wordClause?_literal (arg rest : List Char) :
    ∃ found, ∀ text, ¬ (key ++ ":").toList <:+: text →
      wordClause? key (arg ++ '"' :: (text ++ '"' :: rest)) = found := by
  refine ⟨_, fun text htext => first?_clause_literal hkey ?_ ?_ htext rest⟩
  · intro before here hnone
    rw [hnone]
  · intro part here more hpart
    rw [clauseValue?_append_cons hkey]
    cases clauseValue? key part.getLast? here with
    | none => rfl
    | some value =>
      simp only [Option.map_some, spanWord_append_cons_of_not_isWord (show ¬ isWord '"' by decide)]

end

end Attribute

/-! ### Exchanged literals -/

/-- The word occurs in neither text. -/
def Unspelled (word : String) (old new : List Char) : Prop :=
  ¬ word.toList <:+: old ∧ ¬ word.toList <:+: new

/-- What stays of a relation when a literal in its argument is exchanged, where `arg` is what the
argument says in front of the literal. -/
structure Relation.Unchanged (arg old new : List Char) (r r' : Relation) : Prop where
  name : Attribute.nameFront arg ≠ [] → r'.name = r.name
  fields : Unspelled "fields:" old new → ¬ Attribute.EndsInList "fields" arg → r'.fields = r.fields
  references : Unspelled "references:" old new → ¬ Attribute.EndsInList "references" arg →
    r'.references = r.references
  onDelete : Unspelled "onDelete:" old new → r'.onDelete = r.onDelete
  onUpdate : Unspelled "onUpdate:" old new → r'.onUpdate = r.onUpdate

/-- What stays of a field when a literal on its line is exchanged, where `front` is the line in
front of the literal. -/
structure Field.Unchanged (front old new : List Char) (f f' : Field) : Prop where
  name : f'.name = f.name
  baseType : f'.baseType = f.baseType
  kind : f'.kind = f.kind
  isList : f'.isList = f.isList
  isOptional : f'.isOptional = f.isOptional
  comment : f'.comment = f.comment
  line : f'.line = f.line
  /-- The marker stands outside of the literal, or else the text of the literal holds one. -/
  isId : ∃ outside, f.isId = (outside || Attribute.hasMarker "@id" old) ∧
    f'.isId = (outside || Attribute.hasMarker "@id" new)
  isUnique : ∃ outside, f.isUnique = (outside || Attribute.hasMarker "@unique" old) ∧
    f'.isUnique = (outside || Attribute.hasMarker "@unique" new)
  nativeType : Unspelled "@db." old new → ¬ Attribute.EndsInNativeArgument front →
    f'.nativeType = f.nativeType
  defaultExpr : Unspelled "@default(" old new →
    Attribute.argumentFront? "@default(" front = none → f'.defaultExpr = f.defaultExpr
  /-- Outside of the argument of the relation attribute, a literal has no influence on it. -/
  relation_outside : Unspelled "@relation(" old new →
    Attribute.argumentFront? "@relation(" front = none → f'.relation = f.relation
  /-- Inside that argument, if it has not begun in a literal itself, the literal is a part of it. -/
  relation_inside : ∀ arg, Attribute.argumentFront? "@relation(" front = some arg →
    (stateAfter arg).inCode → ∃ r r', f.relation = some r ∧ f'.relation = some r' ∧
      r.Unchanged arg old new r'

namespace Attribute

theorem relationClauses_unchanged {arg : List Char} (harg : (stateAfter arg).inCode)
    (old new behind : List Char) :
    (relationClauses (arg ++ '"' :: (old ++ '"' :: behind))).Unchanged arg old new
      (relationClauses (arg ++ '"' :: (new ++ '"' :: behind))) := by
  have hlist : ∀ key : String, (∀ c ∈ key.toList, isWord c) → Unspelled (key ++ ":") old new →
      ¬ EndsInList key arg → namesOf key (arg ++ '"' :: (new ++ '"' :: behind)) =
        namesOf key (arg ++ '"' :: (old ++ '"' :: behind)) := by
    intro key hkey hspelled hlist
    obtain ⟨found, hfound⟩ := listClause?_literal hkey hlist behind
    rw [namesOf, namesOf, hfound new hspelled.2, hfound old hspelled.1]
  have hword : ∀ key : String, (∀ c ∈ key.toList, isWord c) → Unspelled (key ++ ":") old new →
      wordClause? key (arg ++ '"' :: (new ++ '"' :: behind)) =
        wordClause? key (arg ++ '"' :: (old ++ '"' :: behind)) := by
    intro key hkey hspelled
    obtain ⟨found, hfound⟩ := wordClause?_literal hkey arg behind
    rw [hfound new hspelled.2, hfound old hspelled.1]
  exact {
    name := fun hname =>
      (leadingName?_append_cons harg hname _).trans (leadingName?_append_cons harg hname _).symm
    fields := hlist "fields" (List.all_eq_true.1 (by decide))
    references := hlist "references" (List.all_eq_true.1 (by decide))
    onDelete := hword "onDelete" (List.all_eq_true.1 (by decide))
    onUpdate := hword "onUpdate" (List.all_eq_true.1 (by decide)) }

/-- A marker stands in front of the literal, behind it or in its text. -/
theorem hasMarker_literal {marker : String} (hne : marker.toList ≠ [])
    (hquote : '"' ∉ marker.toList) (front text back : List Char) :
    hasMarker marker (front ++ '"' :: (text ++ '"' :: back)) =
      (hasMarker marker front || hasMarker marker back || hasMarker marker text) := by
  have hword : ¬ isWord '"' := by decide
  rw [hasMarker_append_cons hne hquote hword, hasMarker_append_cons hne hquote hword, Bool.or_assoc,
    Bool.or_comm (hasMarker marker back)]

end Attribute

end SchemaAtlas

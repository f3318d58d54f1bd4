import SchemaAtlas.Proofs.Lists
import SchemaAtlas.Proofs.Schema.BalancedText
import SchemaAtlas.Proofs.Schema.IndexLine
import SchemaAtlas.Proofs.Text.Items

/-!
# Relation attributes as they are written

The argument of a relation attribute is made of parts with commas between them: a quoted name, which
comes first, and clauses in any order, each of them a key, a colon and a value.
`RelationPart.Spells` says how a part is written and `Relation.Spells` how the whole argument is.
No two clauses have the same key, and no key occurs in another part in front of a colon
(`RelationPart.Spells.not_infix`), so each of the searches in an argument finds the part that it
looks for (`finds_clause`).

A relation without foreign keys or references can do without their clauses (`Relation.Spells`) or
say so in them (`Relation.WrittenAs`).

Main statements: an argument is read as the relation that it is written for, with any blanks around
it (`Relation.WrittenAs.relationClauses_trim`); and so is the first relation attribute on a line,
whatever stands in front of it and behind it (`Attribute.relation?_of_writtenAs`).
-/

namespace SchemaAtlas

open Text

/-- What stands between the commas of a relation attribute. -/
inductive RelationPart where
  | name (text : String)
  | fields (names : List String)
  | references (names : List String)
  | onDelete (action : String)
  | onUpdate (action : String)

/-- The name of the relation as a part, if it has one. -/
def Relation.namePart (r : Relation) : List RelationPart :=
  (r.name.map .name).toList

/-- The clauses that the relation has. -/
def Relation.clauses (r : Relation) : List RelationPart :=
  (if r.fields.isEmpty then [] else [.fields r.fields]) ++
    (if r.references.isEmpty then [] else [.references r.references]) ++
    (r.onDelete.map .onDelete).toList ++ (r.onUpdate.map .onUpdate).toList

/-- The clauses that can be written for the relation, which are also those of empty lists. -/
def Relation.possibleClauses (r : Relation) : List RelationPart :=
  [.fields r.fields, .references r.references] ++
    (r.onDelete.map .onDelete).toList ++ (r.onUpdate.map .onUpdate).toList

/-- The clauses are those of the relation in any order.  An empty list may be among them or not. -/
structure Relation.MadeOf (r : Relation) (clauses : List RelationPart) : Prop where
  complete : r.clauses ⊆ clauses
  sound : clauses ⊆ r.possibleClauses

namespace RelationPart

/-- The word in front of the colon. -/
def key : RelationPart → String
  | name _ => "name"
  | fields _ => "fields"
  | references _ => "references"
  | onDelete _ => "onDelete"
  | onUpdate _ => "onUpdate"

/-- The keys of the clauses. -/
def clauseKeys : List String :=
  ["fields", "references", "onDelete", "onUpdate"]

def name? : RelationPart → Option String
  | name text => some text
  | _ => none

def fields? : RelationPart → Option (List String)
  | fields names => some names
  | _ => none

def references? : RelationPart → Option (List String)
  | references names => some names
  | _ => none

def onDelete? : RelationPart → Option String
  | onDelete action => some action
  | _ => none

def onUpdate? : RelationPart → Option String
  | onUpdate action => some action
  | _ => none

/-- An entry of a list. -/
def IsEntry (name : String) (cs : List Char) : Prop :=
  IsName name ∧ cs = name.toList

/-- The names in brackets, with commas between them and any blanks. -/
inductive SpellsList (names : List String) : List Char → Prop
  | intro {blanks cs blanks' : List Char} (hblanks : ∀ c ∈ blanks, isBlank c)
      (h : CommaSeparated IsEntry names cs) (hblanks' : ∀ c ∈ blanks', isBlank c) :
      SpellsList names ('[' :: ((blanks ++ (cs ++ blanks')) ++ [']']))

/-- The value of the part. -/
inductive SpellsValue : RelationPart → List Char → Prop
  | name {text : String} (h : ∀ c ∈ text.toList, c ∉ ['"', '\\', ':']) :
      SpellsValue (.name text) ('"' :: (text.toList ++ ['"']))
  | fields {names : List String} {cs : List Char} (h : SpellsList names cs) :
      SpellsValue (.fields names) cs
  | references {names : List String} {cs : List Char} (h : SpellsList names cs) :
      SpellsValue (.references names) cs
  | onDelete {action : String} (h : IsName action) : SpellsValue (.onDelete action) action.toList
  | onUpdate {action : String} (h : IsName action) : SpellsValue (.onUpdate action) action.toList

/-- The part with its key, which a name does not need. -/
inductive Spells : RelationPart → List Char → Prop
  | keyed {part : RelationPart} {blanks value : List Char} (hblanks : ∀ c ∈ blanks, isBlank c)
      (h : SpellsValue part value) : Spells part (part.key.toList ++ ':' :: (blanks ++ value))
  | bare {text : String} {value : List Char} (h : SpellsValue (.name text) value) :
      Spells (.name text) value

end RelationPart

/-- The argument of an attribute for the relation: its name, if it has one, and then its clauses in
any order. -/
inductive Relation.Spells (r : Relation) : List Char → Prop
  | intro {clauses : List RelationPart} {blanks cs blanks' : List Char}
      (hclauses : clauses.Perm r.clauses) (hblanks : ∀ c ∈ blanks, isBlank c)
      (h : CommaSeparated RelationPart.Spells (r.namePart ++ clauses) cs)
      (hblanks' : ∀ c ∈ blanks', isBlank c) : Relation.Spells r (blanks ++ (cs ++ blanks'))

/-- The argument of an attribute for the relation, in which clauses may say that a list is empty. -/
inductive Relation.WrittenAs (r : Relation) : List Char → Prop
  | intro {clauses : List RelationPart} {blanks cs blanks' : List Char}
      (hclauses : r.MadeOf clauses) (hblanks : ∀ c ∈ blanks, isBlank c)
      (h : CommaSeparated RelationPart.Spells (r.namePart ++ clauses) cs)
      (hblanks' : ∀ c ∈ blanks', isBlank c) : Relation.WrittenAs r (blanks ++ (cs ++ blanks'))

open RelationPart

/-! ### Characters -/

/-- The character has no meaning for string literals, parentheses, comments and attributes. -/
def IsPlain (c : Char) : Prop :=
  c ∉ ['"', '(', ')', '/', '@']

/-- The character can stand in a list. -/
def IsListChar (c : Char) : Prop :=
  isWord c ∨ IsGap c ∨ c = '[' ∨ c = ']'

theorem IsListChar.ne {c d : Char} (h : IsListChar c)
    (hd : isWord d = false ∧ isBlank d = false ∧ d ∉ [',', '[', ']']) : c ≠ d := by
  rintro rfl
  obtain ⟨hword, hblank, hmem⟩ := hd
  rcases h with h | (rfl | h) | rfl | rfl
  · simp [hword] at h
  · simp at hmem
  · simp [hblank] at h
  · simp at hmem
  · simp at hmem

theorem IsListChar.isPlain {c : Char} (h : IsListChar c) : IsPlain c := by
  simp only [IsPlain, List.mem_cons, List.not_mem_nil, or_false, not_or]
  exact ⟨h.ne (by decide), h.ne (by decide), h.ne (by decide), h.ne (by decide), h.ne (by decide)⟩

theorem isPlain_of_isWord {c : Char} (h : isWord c) : IsPlain c :=
  IsListChar.isPlain (.inl h)

theorem isPlain_of_isGap {c : Char} (h : IsGap c) : IsPlain c :=
  IsListChar.isPlain (.inr (.inl h))

theorem IsPlain.ne_at {c : Char} (h : IsPlain c) : c ≠ '@' := by
  rintro rfl
  simp [IsPlain] at h

/-- String literals that are opened in the text are closed in it, and no comment is started. -/
structure IsArgumentText (cs : List Char) : Prop where
  balanced : Balanced cs
  after_eq : LineState.code.after cs = .code

theorem IsArgumentText.append {cs ds : List Char} (hcs : IsArgumentText cs)
    (hds : IsArgumentText ds) : IsArgumentText (cs ++ ds) where
  balanced := hcs.balanced.append hds.balanced
  after_eq := by rw [LineState.after_append, hcs.after_eq, hds.after_eq]

theorem isArgumentText_of_isPlain {cs : List Char} (h : ∀ c ∈ cs, IsPlain c) :
    IsArgumentText cs where
  balanced := .of_plain fun c hc hmem => h c hc (by revert hmem; simp; tauto)
  after_eq := LineState.after_of_plain fun c hc =>
    ⟨fun heq => h c hc (by simp [heq]), fun heq => h c hc (by simp [heq])⟩

namespace RelationPart

theorem isListChar_of_spellsList {names : List String} {cs : List Char} (h : SpellsList names cs) :
    ∀ c ∈ cs, IsListChar c := by
  obtain ⟨hblanks, h, hblanks'⟩ := h
  have hcs := h.closed (P := fun cs => ∀ c ∈ cs, IsListChar c) (by simp)
    (fun hcs hds => List.forall_mem_append.2 ⟨hcs, hds⟩) (fun hgap c hc => .inr (.inl (hgap c hc)))
    (by
      rintro name - cs ⟨hname, rfl⟩ c hc
      exact .inl (hname.isWord c hc))
  intro c hc
  obtain rfl | hc | hc | hc | rfl := by simpa using hc
  · exact .inr (.inr (.inl rfl))
  · exact .inr (.inl (.inr (hblanks c hc)))
  · exact hcs c hc
  · exact .inr (.inl (.inr (hblanks' c hc)))
  · exact .inr (.inr (.inr rfl))

/-- All characters but those of a name can stand in a list. -/
theorem SpellsValue.isListChar {part : RelationPart} {value : List Char}
    (h : SpellsValue part value) (hname : part.name? = none) : ∀ c ∈ value, IsListChar c := by
  cases h with
  | name => cases hname
  | fields h | references h => exact isListChar_of_spellsList h
  | onDelete h | onUpdate h => exact fun c hc => .inl (h.isWord c hc)

theorem SpellsValue.colon_notMem {part : RelationPart} {value : List Char}
    (h : SpellsValue part value) : ':' ∉ value := by
  cases h with
  | name h =>
    simp only [List.mem_cons, List.mem_append, List.not_mem_nil, or_false, not_or]
    exact ⟨by decide, fun hmem => h _ hmem (by simp), by decide⟩
  | fields h | references h =>
    exact fun hmem => (isListChar_of_spellsList h _ hmem).ne (by decide) rfl
  | onDelete h | onUpdate h => exact fun hmem => absurd (h.isWord _ hmem) (by decide)

theorem SpellsValue.unpadded {part : RelationPart} {value : List Char}
    (h : SpellsValue part value) : Unpadded value := by
  cases h with
  | name => exact .cons_concat (by decide) (by decide) _
  | fields h | references h =>
    obtain ⟨-, -, -⟩ := h
    exact .cons_concat (by decide) (by decide) _
  | onDelete h | onUpdate h => exact h.unpadded

theorem SpellsValue.isArgumentText {part : RelationPart} {value : List Char}
    (h : SpellsValue part value) : IsArgumentText value := by
  cases hname : part.name? with
  | none => exact isArgumentText_of_isPlain fun c hc => (h.isListChar hname c hc).isPlain
  | some text =>
    cases h with
    | name h =>
      have hliteral := isLiteralText_of_notMem (fun hmem => h _ hmem (by simp))
        fun hmem => h _ hmem (by simp)
      refine ⟨.literal hliteral .nil, ?_⟩
      have hquoted := LineState.after_literal hliteral
      rw [LineState.after_cons, LineState.after_append]
      exact congrArg (LineState.after · ['"']) hquoted
    | _ => cases hname

theorem key_mem (part : RelationPart) : part.key ∈ "name" :: clauseKeys := by
  cases part <;> simp [key, clauseKeys]

theorem key_mem_clauseKeys {part : RelationPart} (h : part.name? = none) :
    part.key ∈ clauseKeys := by
  cases part with
  | name => cases h
  | _ => simp [key, clauseKeys]

theorem isName_key (part : RelationPart) : IsName part.key := by
  have hkeys : ∀ key ∈ "name" :: clauseKeys, IsName key := by decide
  exact hkeys part.key part.key_mem

namespace Spells

variable {part : RelationPart} {cs : List Char}

theorem unpadded (h : Spells part cs) : Unpadded cs := by
  cases h with
  | @keyed _ blanks value _ h =>
    exact part.isName_key.unpadded.append h.unpadded (':' :: blanks)
  | bare h => exact h.unpadded

theorem isArgumentText (h : Spells part cs) : IsArgumentText cs := by
  cases h with
  | @keyed _ blanks value hblanks h =>
    have hkey : IsArgumentText (part.key.toList ++ ':' :: blanks) := by
      refine isArgumentText_of_isPlain fun c hc => ?_
      obtain hc | rfl | hc := by simpa using hc
      · exact isPlain_of_isWord (part.isName_key.isWord c hc)
      · simp [IsPlain]
      · exact isPlain_of_isGap (.inr (hblanks c hc))
    simpa using hkey.append h.isArgumentText
  | bare h => exact h.isArgumentText

theorem at_notMem (hname : ∀ text ∈ part.name?, '@' ∉ text.toList) (h : Spells part cs) :
    '@' ∉ cs := by
  have hvalue : ∀ {part value}, (∀ text ∈ part.name?, '@' ∉ text.toList) →
      SpellsValue part value → '@' ∉ value := by
    intro part value hname h hmem
    cases hpart : part.name? with
    | none => exact (h.isListChar hpart _ hmem).isPlain.ne_at rfl
    | some text =>
      cases h with
      | name => exact hname _ rfl (by simpa using hmem)
      | _ => cases hpart
  cases h with
  | keyed hblanks h =>
    simp only [List.mem_append, List.mem_cons, not_or]
    exact ⟨fun hmem => (isPlain_of_isWord (part.isName_key.isWord _ hmem)).ne_at rfl, by decide,
      fun hmem => (isPlain_of_isGap (.inr (hblanks _ hmem))).ne_at rfl, hvalue hname h⟩
  | bare h => exact hvalue hname h

/-- No other part holds the key of a clause in front of a colon. -/
theorem not_infix (h : Spells part cs) {key : String} (hkey : key ∈ clauseKeys)
    (hne : part.key ≠ key) : ¬ (key ++ ":").toList <:+: cs := by
  rintro ⟨front, back, hcs⟩
  have hcolon : (key ++ ":").toList = key.toList ++ [':'] := by simp
  rw [hcolon] at hcs
  cases h with
  | @keyed _ blanks value hblanks h =>
    have hbehind : ':' ∉ blanks ++ value := by
      rw [List.mem_append, not_or]
      exact ⟨fun hmem => absurd (hblanks _ hmem) (by decide), h.colon_notMem⟩
    have hword : ':' ∉ part.key.toList := fun hmem =>
      absurd (part.isName_key.isWord _ hmem) (by decide)
    have hfront : part.key.toList ++ ':' :: (blanks ++ value) =
        (front ++ key.toList) ++ ':' :: back := by
      rw [← hcs]
      simp
    have hsuffix : key.toList <:+ part.key.toList :=
      ⟨front, ((List.append_cons_inj_of_notMem hword hbehind).1 hfront).1.symm⟩
    have hkeys : ∀ key ∈ clauseKeys, ∀ key' ∈ "name" :: clauseKeys,
        key.toList <:+ key'.toList → key' = key := by
      decide
    exact hne (hkeys key hkey part.key part.key_mem hsuffix)
  | bare h =>
    refine h.colon_notMem ?_
    rw [← hcs]
    simp

end Spells

end RelationPart

/-! ### Searches -/

namespace Attribute

theorem clauseValue?_append {key : String} (hkey : IsName key) {before : Option Char}
    (hbefore : before.any isWord = false) {blanks value : List Char}
    (hblanks : ∀ c ∈ blanks, isBlank c) (hvalue : Unpadded value) (rest : List Char) :
    clauseValue? key before (key.toList ++ ':' :: (blanks ++ value) ++ rest) =
      some (value ++ rest) := by
  have hboundary : atBoundary before (key.toList ++ ':' :: (blanks ++ value) ++ rest).head? := by
    obtain ⟨c, word, hword⟩ := List.exists_cons_of_ne_nil hkey.ne_nil
    have hc : isWord c := hkey.isWord c (by simp [hword])
    simp [atBoundary, hbefore, hword, hc]
  have hafter : after? (key ++ ":") (key.toList ++ ':' :: (blanks ++ value) ++ rest) =
      some (blanks ++ (value ++ rest)) := by
    have htext : key.toList ++ ':' :: (blanks ++ value) ++ rest =
        (key ++ ":").toList ++ (blanks ++ (value ++ rest)) := by simp
    rw [htext, after?_append]
  rw [clauseValue?, if_pos hboundary, hafter, Option.map_some,
    trimLeft_append_of_all_isBlank hblanks, hvalue.trimLeft_append]

/-- A search for what stands behind the key of a clause finds the clause with this key. -/
theorem finds_clause {β : Type} {read : Option Char → List Char → Option β}
    {value : RelationPart → Option β} {key : String} (hkey : key ∈ clauseKeys)
    (hvalue : ∀ part, (value part).isSome ↔ part.key = key)
    (hnone : ∀ before here, clauseValue? key before here = none → read before here = none)
    (hsome : ∀ {part cs b}, SpellsValue part cs → value part = some b →
      ∀ {before here rest}, EndsItem rest → clauseValue? key before here = some (cs ++ rest) →
        read before here = some b) :
    Finds Spells read value := by
  have hkeys : ∀ key ∈ clauseKeys, IsName key := by decide
  have hchars : ∀ c ∈ (key ++ ":").toList, ¬ IsGap c := by
    intro c hc
    obtain hc | rfl := by simpa using hc
    · exact fun hgap => not_isWord_of_isGap hgap ((hkeys key hkey).isWord c hc)
    · simp [IsGap, isBlank]
  have hnil : (key ++ ":").toList ≠ [] := by simp
  have hafter : ∀ {before here}, after? (key ++ ":") here = none → read before here = none := by
    intro before here h
    exact hnone before here (by rw [clauseValue?, h]; split <;> rfl)
  constructor
  case nil => exact fun before => hafter (after?_nil hnil)
  case gap =>
    intro before c hc rest
    refine hafter (Option.eq_none_iff_forall_ne_some.2 fun behind h => ?_)
    obtain ⟨d, word, hd⟩ := List.exists_cons_of_ne_nil hnil
    have heq := eq_append_of_after? h
    rw [hd] at heq
    obtain rfl := (List.cons.inj heq).1
    exact hchars c (by simp [hd]) hc
  case hit =>
    intro part cs b h hb before rest hbefore hrest
    obtain rfl : part.key = key := (hvalue part).1 (by simp [hb])
    cases h with
    | keyed hblanks h =>
      exact hsome h hb hrest (clauseValue?_append part.isName_key hbefore hblanks h.unpadded rest)
    | @bare text =>
      have hname : "name" ∉ clauseKeys := by decide
      exact absurd hkey hname
  case miss =>
    intro part cs h hb before here rest _ hhere hrest
    have hne : part.key ≠ key := fun heq => by simpa [hb] using (hvalue part).2 heq
    refine hafter ?_
    rw [after?_append_of_head? fun c hc hmem => hchars c hmem (hrest c hc),
      after?_eq_none (h.not_infix hkey hne) hhere]
    rfl

theorem nameList_append_cons {front : List Char} (h : ',' ∉ front) (back : List Char) :
    nameList (front ++ ',' :: back) = nameList front ++ nameList back := by
  rw [nameList, cutAt_append_cons h, nameList, cutAt_of_notMem h]
  exact List.filterMap_append (l := [trim front])

theorem nameList_of_notMem {cs : List Char} (h : ',' ∉ cs) :
    nameList cs = if (trim cs).isEmpty then [] else [.ofList (trim cs)] := by
  rw [nameList, cutAt_of_notMem h, List.map_singleton, List.filterMap_cons]
  split_ifs <;> rfl

theorem comma_notMem_padded {name : String} (h : IsName name) {blanks blanks' : List Char}
    (hblanks : ∀ c ∈ blanks, isBlank c) (hblanks' : ∀ c ∈ blanks', isBlank c) :
    ',' ∉ blanks ++ (name.toList ++ blanks') := by
  simp only [List.mem_append, not_or]
  exact ⟨fun hmem => absurd (hblanks _ hmem) (by decide),
    fun hmem => absurd (h.isWord _ hmem) (by decide),
    fun hmem => absurd (hblanks' _ hmem) (by decide)⟩

theorem nameList_padded {name : String} (h : IsName name) {blanks blanks' : List Char}
    (hblanks : ∀ c ∈ blanks, isBlank c) (hblanks' : ∀ c ∈ blanks', isBlank c) :
    nameList (blanks ++ (name.toList ++ blanks')) = [name] := by
  rw [nameList_of_notMem (comma_notMem_padded h hblanks hblanks'),
    h.unpadded.trim_padded hblanks hblanks', if_neg (by simpa using h.ne_nil),
    String.ofList_toList]

theorem nameList_of_commaSeparated {names : List String} {cs : List Char}
    (h : CommaSeparated IsEntry names cs) {blanks blanks' : List Char}
    (hblanks : ∀ c ∈ blanks, isBlank c) (hblanks' : ∀ c ∈ blanks', isBlank c) :
    nameList (blanks ++ (cs ++ blanks')) = names := by
  induction h generalizing blanks with
  | nil =>
    have hall : ∀ c ∈ blanks ++ ([] ++ blanks'), isBlank c :=
      List.forall_mem_append.2 ⟨hblanks, hblanks'⟩
    have hcomma : ',' ∉ blanks ++ ([] ++ blanks') := fun hmem =>
      absurd (hall _ hmem) (by decide)
    rw [nameList_of_notMem hcomma, trim_eq_nil_iff.2 hall]
    rfl
  | single h =>
    obtain ⟨hname, rfl⟩ := h
    exact nameList_padded hname hblanks hblanks'
  | @cons name name' names cs behind front rest h hbehind hfront _ ih =>
    obtain ⟨hname, rfl⟩ := h
    have htext : blanks ++ (name.toList ++ ((behind ++ ',' :: front) ++ rest) ++ blanks') =
        blanks ++ (name.toList ++ behind) ++ ',' :: (front ++ (rest ++ blanks')) := by simp
    rw [htext, nameList_append_cons (comma_notMem_padded hname hblanks hbehind),
      nameList_padded hname hblanks hbehind, ih hfront]
    rfl

/-- What the list for `key` says, if it is given at the start of the text. -/
def namesAt? (key : String) (before : Option Char) (here : List Char) : Option (List String) :=
  (match clauseValue? key before here with
    | some ('[' :: inner) => (cutFirst? ']' inner).map Prod.fst
    | _ => none).map nameList

/-- The word that is given for `key` at the start of the text. -/
def wordAt? (key : String) (before : Option Char) (here : List Char) : Option String :=
  match clauseValue? key before here with
  | some value =>
    let word := (spanWord value).1
    if word.isEmpty then none else some (.ofList word)
  | none => none

theorem namesOf_eq (key : String) (cs : List Char) :
    namesOf key cs = (firstFrom? (namesAt? key) none cs).getD [] := by
  have hmap : (listClause? key cs).map nameList = firstFrom? (namesAt? key) none cs :=
    map_firstFrom? nameList none cs
  rw [← hmap, namesOf]
  cases listClause? key cs <;> rfl

theorem namesAt?_of_spellsList {key : String} {names : List String} {cs : List Char}
    (h : SpellsList names cs) {before : Option Char} {here rest : List Char}
    (hhere : clauseValue? key before here = some (cs ++ rest)) :
    namesAt? key before here = some names := by
  obtain ⟨hblanks, h, hblanks'⟩ := h
  rename_i blanks cs blanks'
  have hentries : ']' ∉ cs := by
    refine h.closed (P := (']' ∉ ·)) List.not_mem_nil (fun hcs hds => by simp [hcs, hds])
      (fun hgap hmem => absurd (hgap _ hmem) (by simp [IsGap, isBlank])) ?_
    rintro name - cs ⟨hname, rfl⟩ hmem
    exact absurd (hname.isWord _ hmem) (by decide)
  have hinner : ']' ∉ blanks ++ (cs ++ blanks') := by
    simp only [List.mem_append, not_or]
    exact ⟨fun hmem => absurd (hblanks _ hmem) (by decide), hentries,
      fun hmem => absurd (hblanks' _ hmem) (by decide)⟩
  have htext : '[' :: ((blanks ++ (cs ++ blanks')) ++ [']']) ++ rest =
      '[' :: ((blanks ++ (cs ++ blanks')) ++ ']' :: rest) := by simp
  rw [htext] at hhere
  simp only [namesAt?, hhere, cutFirst?_append_cons hinner, Option.map_some,
    nameList_of_commaSeparated h hblanks hblanks']

theorem wordAt?_of_isName {key action : String} (h : IsName action) {before : Option Char}
    {here rest : List Char} (hrest : EndsItem rest)
    (hhere : clauseValue? key before here = some (action.toList ++ rest)) :
    wordAt? key before here = some action := by
  have hspan : (spanWord (action.toList ++ rest)).1 = action.toList := by
    rw [spanWord_append_of_head? fun c hc => not_isWord_of_isGap (hrest c hc),
      spanWord_of_isWord h.isWord]
  simp [wordAt?, hhere, hspan, h.ne_nil]

/-! ### The name -/

theorem leadingName?_quoted {text : String} (h : '"' ∉ text.toList) (rest : List Char) :
    leadingName? ('"' :: (text.toList ++ ['"']) ++ rest) = some text := by
  have hstart : leadingName? ('"' :: (text.toList ++ ['"']) ++ rest) =
      (cutFirst? '"' ((text.toList ++ ['"']) ++ rest)).map fun cut => .ofList cut.1 := rfl
  rw [hstart, List.append_assoc, List.singleton_append, cutFirst?_append_cons h]
  simp

theorem leadingName?_keyed {value : List Char} (h : Unpadded value) {blanks : List Char}
    (hblanks : ∀ c ∈ blanks, isBlank c) {rest : List Char}
    (hvalue : after? "name:" (value ++ rest) = none) :
    leadingName? ("name:".toList ++ (blanks ++ (value ++ rest))) =
      leadingName? (value ++ rest) := by
  have hstart : trimLeft ("name:".toList ++ (blanks ++ (value ++ rest))) =
      "name:".toList ++ (blanks ++ (value ++ rest)) := List.dropWhile_cons_of_neg (by decide)
  have hblanks' : trimLeft (blanks ++ (value ++ rest)) = value ++ rest := by
    rw [trimLeft_append_of_all_isBlank hblanks, h.trimLeft_append]
  simp only [leadingName?, hstart, after?_append, hblanks', h.trimLeft_append, hvalue]

/-- An argument that starts with a clause has no name. -/
theorem leadingName?_clause {part : RelationPart} (h : part.name? = none) (rest : List Char) :
    leadingName? (part.key.toList ++ ':' :: rest) = none := by
  have hkeys : ∀ key ∈ clauseKeys, ¬ "name:".toList <+: (key ++ ":").toList ∧
      ¬ (key ++ ":").toList <+: "name:".toList := by decide
  obtain ⟨hword, hother⟩ := hkeys part.key (key_mem_clauseKeys h)
  have htext : part.key.toList ++ ':' :: rest = (part.key ++ ":").toList ++ rest := by simp
  have hname : after? "name:" (part.key.toList ++ ':' :: rest) = none := by
    rw [htext, after?_append_of_not_isPrefix hword hother]
  simp only [leadingName?, part.isName_key.unpadded.trimLeft_append, hname]
  split
  next inner heq =>
    obtain ⟨c, word, hword⟩ := List.exists_cons_of_ne_nil part.isName_key.ne_nil
    rw [hword] at heq
    obtain rfl := (List.cons.inj heq).1
    exact absurd (part.isName_key.isWord '"' (by simp [hword])) (by decide)
  next => rfl

theorem leadingName?_of_commaSeparated {name : Option String} {clauses : List RelationPart}
    (hclauses : ∀ part ∈ clauses, part.name? = none) {cs : List Char}
    (h : CommaSeparated Spells ((name.map .name).toList ++ clauses) cs) :
    leadingName? cs = name := by
  cases name with
  | some text =>
    obtain ⟨first, rest, rfl, hfirst, -⟩ := h.exists_first
    have hquoted : ∀ {value}, SpellsValue (.name text) value →
        leadingName? (value ++ rest) = some text := by
      rintro value ⟨htext⟩
      exact leadingName?_quoted (fun hmem => htext _ hmem (by simp)) rest
    cases hfirst with
    | @keyed _ blanks value hblanks hvalue =>
      have htext : (RelationPart.name text).key.toList ++ ':' :: (blanks ++ value) ++ rest =
          "name:".toList ++ (blanks ++ (value ++ rest)) := by simp [RelationPart.key]
      have hafter : after? "name:" (value ++ rest) = none := by
        obtain ⟨-⟩ := hvalue
        rfl
      rw [htext, leadingName?_keyed hvalue.unpadded hblanks hafter, hquoted hvalue]
    | bare hvalue => exact hquoted hvalue
  | none =>
    cases clauses with
    | nil =>
      cases h
      rfl
    | cons part clauses =>
      obtain ⟨first, rest, rfl, hfirst, -⟩ := h.exists_first
      have hpart := hclauses part List.mem_cons_self
      cases hfirst with
      | keyed hblanks hvalue =>
        rw [List.append_assoc]
        exact leadingName?_clause hpart _
      | bare => cases hpart

end Attribute

/-! ### The clauses -/

namespace Relation

variable {r : Relation} {clauses : List RelationPart}

theorem clauses_subset_possibleClauses (r : Relation) : r.clauses ⊆ r.possibleClauses := by
  intro part hpart
  simp only [clauses, possibleClauses, List.mem_append] at hpart ⊢
  obtain ((hpart | hpart) | hpart) | hpart := hpart
  · split_ifs at hpart with hempty
    · cases hpart
    · exact .inl (.inl (List.mem_cons.2 (.inl (List.mem_singleton.1 hpart))))
  · split_ifs at hpart with hempty
    · cases hpart
    · exact .inl (.inl (List.mem_cons_of_mem _ hpart))
  · exact .inl (.inr hpart)
  · exact .inr hpart

theorem madeOf_of_perm (h : clauses.Perm r.clauses) : r.MadeOf clauses where
  complete := h.symm.subset
  sound _ hpart := r.clauses_subset_possibleClauses (h.subset hpart)

theorem forall_mem_possibleClauses {p : RelationPart → Prop} :
    (∀ part ∈ r.possibleClauses, p part) ↔
      p (.fields r.fields) ∧ p (.references r.references) ∧
        (∀ action ∈ r.onDelete, p (.onDelete action)) ∧
        ∀ action ∈ r.onUpdate, p (.onUpdate action) := by
  simp only [possibleClauses, List.forall_mem_append, List.forall_mem_cons, and_assoc]
  simp

theorem name?_of_mem_possibleClauses {part : RelationPart} (h : part ∈ r.possibleClauses) :
    part.name? = none := by
  cases part with
  | name text => simp [possibleClauses] at h
  | _ => rfl

namespace MadeOf

variable {value : RelationPart → Option (List String)} {action? : RelationPart → Option String}

/-- The list that is searched for is the one of the relation. -/
theorem getD_names (h : r.MadeOf clauses) {names : List String}
    (hsound : ∀ part ∈ r.possibleClauses, ∀ found ∈ value part, found = names)
    (hcomplete : names ≠ [] → ∃ part ∈ r.clauses, value part = some names) :
    (clauses.findSome? value).getD [] = names := by
  refine getD_findSome? (fun part hpart => hsound part (h.sound hpart)) fun hne => ?_
  obtain ⟨part, hpart, hvalue⟩ := hcomplete hne
  exact ⟨part, h.complete hpart, hvalue⟩

/-- The word that is searched for is the one of the relation. -/
theorem findSome?_action (h : r.MadeOf clauses) {action : Option String}
    (hsound : ∀ part ∈ r.possibleClauses, ∀ found ∈ action? part, found ∈ action)
    (hcomplete : ∀ found ∈ action, ∃ part ∈ r.clauses, found ∈ action? part) :
    clauses.findSome? action? = action := by
  refine findSome?_eq_of_mem (fun part hpart => hsound part (h.sound hpart)) fun found hfound => ?_
  obtain ⟨part, hpart, hvalue⟩ := hcomplete found hfound
  exact ⟨part, h.complete hpart, hvalue⟩

theorem getD_fields (h : r.MadeOf clauses) : (clauses.findSome? fields?).getD [] = r.fields :=
  h.getD_names (by simp [forall_mem_possibleClauses, fields?])
    fun hne => ⟨.fields r.fields, by simp [Relation.clauses, hne], rfl⟩

theorem getD_references (h : r.MadeOf clauses) :
    (clauses.findSome? references?).getD [] = r.references :=
  h.getD_names (by simp [forall_mem_possibleClauses, references?])
    fun hne => ⟨.references r.references, by simp [Relation.clauses, hne], rfl⟩

theorem findSome?_onDelete? (h : r.MadeOf clauses) : clauses.findSome? onDelete? = r.onDelete :=
  h.findSome?_action (by simp [forall_mem_possibleClauses, onDelete?])
    fun action haction => ⟨.onDelete action, by simp_all [Relation.clauses], rfl⟩

theorem findSome?_onUpdate? (h : r.MadeOf clauses) : clauses.findSome? onUpdate? = r.onUpdate :=
  h.findSome?_action (by simp [forall_mem_possibleClauses, onUpdate?])
    fun action haction => ⟨.onUpdate action, by simp_all [Relation.clauses], rfl⟩

end MadeOf

end Relation

/-! ### The relation -/

namespace Attribute

theorem finds_names {key : String} (hkey : key ∈ clauseKeys)
    {value : RelationPart → Option (List String)}
    (hvalue : ∀ part, (value part).isSome ↔ part.key = key)
    (hlist : ∀ {part cs names}, SpellsValue part cs → value part = some names →
      SpellsList names cs) : Finds Spells (namesAt? key) value := by
  refine finds_clause hkey hvalue (fun before here h => ?_) fun h hnames _ _ _ _ hhere => ?_
  · simp only [namesAt?, h, Option.map_none]
  · exact namesAt?_of_spellsList (hlist h hnames) hhere

theorem finds_word {key : String} (hkey : key ∈ clauseKeys) {value : RelationPart → Option String}
    (hvalue : ∀ part, (value part).isSome ↔ part.key = key)
    (hword : ∀ {part cs action}, SpellsValue part cs → value part = some action →
      IsName action ∧ cs = action.toList) : Finds Spells (wordAt? key) value := by
  refine finds_clause hkey hvalue (fun before here h => ?_) fun h haction _ _ _ hrest hhere => ?_
  · simp only [wordAt?, h]
  · obtain ⟨hname, rfl⟩ := hword h haction
    exact wordAt?_of_isName hname hrest hhere

theorem finds_fields : Finds Spells (namesAt? "fields") fields? := by
  refine finds_names (by decide) (fun part => ?_) fun h hnames => ?_
  · cases part <;> simp [fields?, key]
  · cases h with
    | fields h => exact Option.some.inj hnames ▸ h
    | _ => cases hnames

theorem finds_references : Finds Spells (namesAt? "references") references? := by
  refine finds_names (by decide) (fun part => ?_) fun h hnames => ?_
  · cases part <;> simp [references?, key]
  · cases h with
    | references h => exact Option.some.inj hnames ▸ h
    | _ => cases hnames

theorem finds_onDelete : Finds Spells (wordAt? "onDelete") onDelete? := by
  refine finds_word (by decide) (fun part => ?_) fun h haction => ?_
  · cases part <;> simp [onDelete?, key]
  · cases h with
    | onDelete h => exact Option.some.inj haction ▸ ⟨h, rfl⟩
    | _ => cases haction

theorem finds_onUpdate : Finds Spells (wordAt? "onUpdate") onUpdate? := by
  refine finds_word (by decide) (fun part => ?_) fun h haction => ?_
  · cases part <;> simp [onUpdate?, key]
  · cases h with
    | onUpdate h => exact Option.some.inj haction ▸ ⟨h, rfl⟩
    | _ => cases haction

theorem relationClauses_of_commaSeparated {r : Relation} {clauses : List RelationPart}
    (hclauses : r.MadeOf clauses) {cs : List Char}
    (h : CommaSeparated Spells (r.namePart ++ clauses) cs) : relationClauses cs = r := by
  have hfound {β : Type} {read : Option Char → List Char → Option β}
      {value : RelationPart → Option β} (hfinds : Finds Spells read value)
      (hvalue : ∀ text, value (.name text) = none) :
      firstFrom? read none cs = clauses.findSome? value := by
    have hnone : r.namePart.findSome? value = none := by
      rw [Relation.namePart]
      cases r.name <;> simp [hvalue]
    rw [h.firstFrom?_eq hfinds rfl, List.findSome?_append, hnone, Option.none_or]
  have hname : leadingName? cs = r.name :=
    leadingName?_of_commaSeparated
      (fun part hpart => Relation.name?_of_mem_possibleClauses (hclauses.sound hpart)) h
  have hfields : namesOf "fields" cs = r.fields := by
    rw [namesOf_eq, hfound finds_fields fun _ => rfl, hclauses.getD_fields]
  have hreferences : namesOf "references" cs = r.references := by
    rw [namesOf_eq, hfound finds_references fun _ => rfl, hclauses.getD_references]
  have honDelete : wordClause? "onDelete" cs = r.onDelete :=
    (hfound finds_onDelete fun _ => rfl).trans hclauses.findSome?_onDelete?
  have honUpdate : wordClause? "onUpdate" cs = r.onUpdate :=
    (hfound finds_onUpdate fun _ => rfl).trans hclauses.findSome?_onUpdate?
  simp only [relationClauses, hname, hfields, hreferences, honDelete, honUpdate]

end Attribute

theorem Relation.Spells.writtenAs {r : Relation} {args : List Char} (h : r.Spells args) :
    r.WrittenAs args := by
  obtain ⟨hclauses, hblanks, h, hblanks'⟩ := h
  exact .intro (madeOf_of_perm hclauses) hblanks h hblanks'

/-- The argument of a relation is closed by the parenthesis behind it. -/
theorem Relation.WrittenAs.isArgumentText {r : Relation} {args : List Char} (h : r.WrittenAs args) :
    IsArgumentText args := by
  obtain ⟨-, hblanks, h, hblanks'⟩ := h
  have hgap : ∀ {gap}, (∀ c ∈ gap, IsGap c) → IsArgumentText gap :=
    fun hgap => isArgumentText_of_isPlain fun c hc => isPlain_of_isGap (hgap c hc)
  have hcs := h.closed (P := IsArgumentText) ⟨.nil, rfl⟩ IsArgumentText.append hgap
    fun _ _ _ hpart => hpart.isArgumentText
  exact (hgap fun c hc => .inr (hblanks c hc)).append
    (hcs.append (hgap fun c hc => .inr (hblanks' c hc)))

theorem Relation.WrittenAs.relationClauses_trim {r : Relation} {args : List Char}
    (h : r.WrittenAs args) : Attribute.relationClauses (trim args) = r := by
  obtain ⟨hclauses, hblanks, h, hblanks'⟩ := h
  rename_i clauses blanks cs blanks'
  have htrim : trim (blanks ++ (cs ++ blanks')) = cs := by
    by_cases hne : r.namePart ++ clauses = []
    · rw [hne] at h
      cases h
      exact trim_eq_nil_iff.2 (List.forall_mem_append.2 ⟨hblanks, hblanks'⟩)
    · exact (h.unpadded (fun _ _ _ hpart => hpart.unpadded) hne).trim_padded hblanks hblanks'
  rw [htrim, Attribute.relationClauses_of_commaSeparated hclauses h]

theorem Relation.Spells.at_notMem {r : Relation} (hname : ∀ text ∈ r.name, '@' ∉ text.toList)
    {args : List Char} (h : r.Spells args) : '@' ∉ args := by
  obtain ⟨hclauses, hblanks, h, hblanks'⟩ := h
  rename_i clauses blanks cs blanks'
  have hgap : ∀ {gap : List Char}, (∀ c ∈ gap, IsGap c) → '@' ∉ gap :=
    fun hgap hmem => (isPlain_of_isGap (hgap _ hmem)).ne_at rfl
  have hcs : '@' ∉ cs := by
    refine h.closed (P := ('@' ∉ ·)) List.not_mem_nil (fun hcs hds => by simp [hcs, hds]) hgap
      fun part hpart cs hspells => hspells.at_notMem fun text htext => ?_
    obtain hpart | hpart := List.mem_append.1 hpart
    · obtain ⟨text', htext', rfl⟩ : ∃ text ∈ r.name, RelationPart.name text = part := by
        simpa [Relation.namePart] using hpart
      obtain rfl := Option.some.inj htext
      exact hname text' htext'
    · rw [name?_of_mem_possibleClauses ((madeOf_of_perm hclauses).sound hpart)] at htext
      cases htext
  simp only [List.mem_append, not_or]
  exact ⟨hgap fun c hc => .inr (hblanks c hc), hcs, hgap fun c hc => .inr (hblanks' c hc)⟩

/-! ### The attribute on a line -/

/-- The first relation attribute on a line is read as the relation it is written as, whatever stands
behind it. -/
theorem Attribute.relation?_of_writtenAs {r : Relation} {args : List Char} (h : r.WrittenAs args)
    {front : List Char} (hfront : ¬ "@relation(".toList <:+: front) (back : List Char) :
    relation? (front ++ ("@relation(".toList ++ (args ++ ')' :: back))) = some r := by
  rw [relation?, afterFirst?_append rfl (by decide) hfront, Option.map_some,
    argumentText_of_balanced h.isArgumentText.balanced, h.relationClauses_trim]

/-- The marks of other attributes and relations stand around the relation, and its name holds the
word and the brackets of a clause. -/
theorem Attribute.relation?_of_writtenAs_between_others :
    let r : Relation := {
      name := some "fields [x])", references := ["id", "no"], onDelete := some "Cascade" }
    let front := "a A? @default(\"@relation\") @relation ".toList
    let args := " name: \"fields [x])\" ,onDelete:\tCascade, references: [ id ,no], fields: []".toList
    let back := " @map(\"x, onUpdate: Cascade\") @relation(fields: [b]".toList
    r.WrittenAs args ∧ ¬ "@relation(".toList <:+: front ∧
      relation? (front ++ ("@relation(".toList ++ (args ++ ')' :: back))) = some r := by
  intro r front args back
  have hnone : ∀ c ∈ ([] : List Char), isBlank c := List.forall_mem_nil _
  have hblank : ∀ c ∈ [' '], isBlank c := by simp [isBlank]
  have htab : ∀ c ∈ ['\t'], isBlank c := by simp [isBlank]
  have hclauses : r.MadeOf [.onDelete "Cascade", .references ["id", "no"], .fields []] := by
    constructor <;> simp [r, Relation.clauses, Relation.possibleClauses]
  have hentries : CommaSeparated RelationPart.IsEntry ["id", "no"]
      ("id".toList ++ (([' '] ++ ',' :: []) ++ "no".toList)) :=
    .cons ⟨by decide, rfl⟩ hblank hnone (.single ⟨by decide, rfl⟩)
  have h : r.WrittenAs args := by
    have h := Relation.WrittenAs.intro (r := r) hclauses hblank
      (.cons (.keyed hblank (.name (by simp))) hblank hnone
        (.cons (.keyed htab (.onDelete (by decide))) hnone hblank
          (.cons (.keyed hblank (.references (.intro hblank hentries hnone))) hnone hblank
            (.single (.keyed hblank (.fields (.intro hnone .nil hnone))))))) hnone
    exact Eq.mp (congrArg r.WrittenAs (by decide +kernel)) h
  have hfront : ¬ "@relation(".toList <:+: front := by decide +kernel
  exact ⟨h, hfront, relation?_of_writtenAs h hfront back⟩

end SchemaAtlas

import SchemaAtlas.Proofs.Schema.IndexLine
import SchemaAtlas.Proofs.Text.Items

/-!
# Lists of fields as they are written

An index and a constraint list fields in brackets, some of them with an argument in parentheses
(`ListsField`).  What stands in such an argument is at no point at the depth at which commas separate
fields (`MatchedParentheses.keepsItem`), so each field with its argument is one item of the list.
Parentheses count wherever they stand, in string literals too.

Main statement: the first list on a line is read as the fields that it lists
(`Attribute.fieldNames_of_listsFields`).
-/

namespace SchemaAtlas

open Text

/-- Every parenthesis that is opened in the text is closed in it, and none else is. -/
inductive MatchedParentheses : List Char → Prop
  | nil : MatchedParentheses []
  | plain {c : Char} {cs : List Char} (hc : c ∉ ['(', ')']) (hcs : MatchedParentheses cs) :
      MatchedParentheses (c :: cs)
  | nested {inner cs : List Char} (hinner : MatchedParentheses inner)
      (hcs : MatchedParentheses cs) : MatchedParentheses ('(' :: (inner ++ ')' :: cs))

/-- A field in a list, with or without an argument. -/
inductive ListsField (name : String) : List Char → Prop
  | bare (hname : IsName name) : ListsField name name.toList
  | applied {blanks argument : List Char} (hname : IsName name) (hblanks : ∀ c ∈ blanks, isBlank c)
      (hargument : MatchedParentheses argument) (hclose : ']' ∉ argument) :
      ListsField name (name.toList ++ (blanks ++ '(' :: (argument ++ [')'])))

/-- The fields in order, with commas between them and any blanks. -/
inductive ListsFields (names : List String) : List Char → Prop
  | intro {blanks cs blanks' : List Char} (hblanks : ∀ c ∈ blanks, isBlank c)
      (h : CommaSeparated ListsField names cs) (hblanks' : ∀ c ∈ blanks', isBlank c) :
      ListsFields names (blanks ++ (cs ++ blanks'))

namespace MatchedParentheses

variable {cs ds : List Char}

theorem append (hcs : MatchedParentheses cs) (hds : MatchedParentheses ds) :
    MatchedParentheses (cs ++ ds) := by
  induction hcs with
  | nil => exact hds
  | plain hc _ ih => exact .plain hc ih
  | nested hinner _ _ ih =>
    rw [List.cons_append, List.append_assoc, List.cons_append]
    exact .nested hinner ih

theorem of_plain (hcs : cs.all fun c => c ∉ ['(', ')']) : MatchedParentheses cs := by
  induction cs with
  | nil => exact .nil
  | cons c cs ih =>
    rw [List.all_cons, Bool.and_eq_true] at hcs
    exact .plain (of_decide_eq_true hcs.1) (ih hcs.2)

end MatchedParentheses

/-! ### Items -/

namespace Attribute

theorem keepsItem_of_isBlank {depth : Int} {cs : List Char} (h : ∀ c ∈ cs, isBlank c) :
    KeepsItem depth cs := by
  refine .of_plain fun c hc hmem => ?_
  simp only [List.mem_cons, List.not_mem_nil, or_false] at hmem
  obtain rfl | rfl | rfl := hmem <;> exact absurd (h _ hc) (by decide)

/-- Parentheses stand in an item if what they enclose does so one level deeper. -/
theorem KeepsItem.parentheses {depth : Int} {cs : List Char} (h : KeepsItem (depth + 1) cs) :
    KeepsItem depth ('(' :: (cs ++ [')'])) := by
  intro rest item items hrest
  have hclose : itemDepth (depth + 1) ')' = depth := by
    simp [itemDepth]
  have hbehind : listItems (depth + 1) (')' :: rest) = (')' :: item) :: items :=
    listItems_cons (by simp) (hclose.symm ▸ hrest)
  have hopen : listItems depth ('(' :: (cs ++ ')' :: rest)) =
      ('(' :: (cs ++ ')' :: item)) :: items :=
    listItems_cons (by simp) (h _ _ _ hbehind)
  simpa using hopen

end Attribute

open Attribute

/-- In parentheses no comma ends the item. -/
theorem MatchedParentheses.keepsItem {cs : List Char} (h : MatchedParentheses cs) {depth : Int}
    (hdepth : 0 < depth) : KeepsItem depth cs := by
  induction h generalizing depth with
  | nil => exact .nil
  | plain hc _ ih => exact .cons hc (fun _ => by omega) (ih hdepth)
  | nested _ _ ihinner ih =>
    have hinner : KeepsItem (depth + 1) _ := ihinner (by omega)
    simpa using hinner.parentheses.append (ih hdepth)

namespace ListsField

variable {name : String} {cs : List Char}

theorem isName (h : ListsField name cs) : IsName name := by
  cases h with
  | bare hname => exact hname
  | applied hname => exact hname

theorem keepsItem (h : ListsField name cs) : KeepsItem 0 cs := by
  cases h with
  | bare hname => exact keepsItem_of_isWord hname.isWord
  | applied hname hblanks hargument =>
    have hinner : KeepsItem (0 + 1) _ := hargument.keepsItem (by omega)
    exact (keepsItem_of_isWord hname.isWord).append
      ((keepsItem_of_isBlank hblanks).append hinner.parentheses)

theorem unpadded (h : ListsField name cs) : Unpadded cs := by
  cases h with
  | bare hname => exact hname.unpadded
  | applied hname =>
    exact hname.unpadded.append (.cons_concat (by decide) (by decide) _) _

/-- The name of the field is the word that the item starts with. -/
theorem spanWord_eq (h : ListsField name cs) : (spanWord cs).1 = name.toList := by
  cases h with
  | bare hname => rw [spanWord_of_isWord hname.isWord]
  | @applied blanks argument hname hblanks =>
    have hhead : ∀ c ∈ (blanks ++ '(' :: (argument ++ [')'])).head?, ¬ isWord c := by
      cases blanks with
      | nil => exact forall_mem_head?_cons (by decide) _
      | cons b blanks =>
        exact forall_mem_head?_cons (fun hword =>
          not_isBlank_of_isWord hword (hblanks b List.mem_cons_self)) _
    rw [spanWord_append_of_head? hhead, spanWord_of_isWord hname.isWord]

theorem notMem_close (h : ListsField name cs) : ']' ∉ cs := by
  have hword : ∀ {name : String}, IsName name → ']' ∉ name.toList :=
    fun hname hmem => absurd (hname.isWord _ hmem) (by decide)
  cases h with
  | bare hname => exact hword hname
  | applied hname hblanks _ hclose =>
    simp only [List.mem_append, List.mem_cons, List.not_mem_nil, or_false, not_or]
    exact ⟨hword hname, fun hmem => absurd (hblanks _ hmem) (by decide), by decide, hclose,
      by decide⟩

theorem itemField?_padded (h : ListsField name cs) {blanks blanks' : List Char}
    (hblanks : ∀ c ∈ blanks, isBlank c) (hblanks' : ∀ c ∈ blanks', isBlank c) :
    itemField? (blanks ++ (cs ++ blanks')) = some name := by
  rw [itemField?, h.unpadded.trim_padded hblanks hblanks', h.spanWord_eq]
  obtain ⟨c, word, hword⟩ := List.exists_cons_of_ne_nil h.isName.ne_nil
  rw [hword, ← String.ofList_toList (s := name), hword]

end ListsField

/-! ### The list -/

namespace Attribute

theorem filterMap_listItems {names : List String} {cs : List Char}
    (h : CommaSeparated ListsField names cs) {blanks blanks' : List Char}
    (hblanks : ∀ c ∈ blanks, isBlank c) (hblanks' : ∀ c ∈ blanks', isBlank c) :
    (listItems 0 (blanks ++ (cs ++ blanks'))).filterMap itemField? = names := by
  have hpadded {cs front back : List Char} (hcs : KeepsItem 0 cs) (hfront : ∀ c ∈ front, isBlank c)
      (hback : ∀ c ∈ back, isBlank c) : KeepsItem 0 (front ++ (cs ++ back)) :=
    (keepsItem_of_isBlank hfront).append (hcs.append (keepsItem_of_isBlank hback))
  induction h generalizing blanks with
  | nil =>
    have hall : ∀ c ∈ blanks ++ ([] ++ blanks'), isBlank c :=
      List.forall_mem_append.2 ⟨hblanks, hblanks'⟩
    have hnone : itemField? (blanks ++ ([] ++ blanks')) = none := by
      rw [itemField?, trim_eq_nil_iff.2 hall]
      rfl
    rw [(hpadded .nil hblanks hblanks').listItems_eq, List.filterMap_cons, hnone]
    rfl
  | single h =>
    rw [(hpadded h.keepsItem hblanks hblanks').listItems_eq, List.filterMap_cons,
      h.itemField?_padded hblanks hblanks']
    rfl
  | @cons name name' names cs behind front rest h hbehind hfront _ ih =>
    have htext : blanks ++ (cs ++ ((behind ++ ',' :: front) ++ rest) ++ blanks') =
        (blanks ++ (cs ++ behind)) ++ ',' :: (front ++ (rest ++ blanks')) := by simp
    rw [htext, (hpadded h.keepsItem hblanks hbehind).listItems_append_comma, List.filterMap_cons,
      h.itemField?_padded hblanks hbehind, ih hfront]

end Attribute

theorem ListsFields.notMem_close {names : List String} {cs : List Char} (h : ListsFields names cs) :
    ']' ∉ cs := by
  obtain ⟨hblanks, h, hblanks'⟩ := h
  have hgap : ∀ {gap : List Char}, (∀ c ∈ gap, IsGap c) → ']' ∉ gap :=
    fun hgap hmem => absurd (hgap _ hmem) (by simp [IsGap, isBlank])
  have hcs := h.closed (P := (']' ∉ ·)) List.not_mem_nil (fun hcs hds => by simp [hcs, hds]) hgap
    fun _ _ _ hfield => hfield.notMem_close
  simp only [List.mem_append, not_or]
  exact ⟨hgap fun c hc => .inr (hblanks c hc), hcs, hgap fun c hc => .inr (hblanks' c hc)⟩

/-- The first list in brackets on a line is read as the fields that it lists: no argument of a field
is taken for a field, and no field is lost. -/
theorem Attribute.fieldNames_of_listsFields {names : List String} {cs : List Char}
    (h : ListsFields names cs) {front : List Char} (hfront : '[' ∉ front) (back : List Char) :
    fieldNames (front ++ '[' :: (cs ++ ']' :: back)) = names := by
  simp only [fieldNames, cutFirst?_append_cons hfront, cutFirst?_append_cons h.notMem_close]
  obtain ⟨hblanks, h, hblanks'⟩ := h
  exact filterMap_listItems h hblanks hblanks'

/-- A list with nested parentheses, with commas in them and with brackets that are opened there. -/
theorem Attribute.fieldNames_of_listsFields_nested :
    let names := ["a", "b", "a", "c"]
    let cs := "\ta(ops: f(x, [y), sort: Desc), b ,a (), c ((1)(2, 3)) ".toList
    let front := "@@unique(map: \"u]\", ".toList
    let back := ", [d])".toList
    ListsFields names cs ∧ '[' ∉ front ∧ fieldNames (front ++ '[' :: (cs ++ ']' :: back)) = names := by
  intro names cs front back
  have hblank : ∀ c ∈ [' '], isBlank c := by simp [isBlank]
  have htab : ∀ c ∈ ['\t'], isBlank c := by simp [isBlank]
  have hnone : ∀ c ∈ ([] : List Char), isBlank c := List.forall_mem_nil _
  have hcall : MatchedParentheses ('(' :: ("x, [y".toList ++ ')' :: ", sort: Desc".toList)) :=
    .nested (.of_plain (by decide)) (.of_plain (by decide))
  have hnested : MatchedParentheses ("ops: f".toList ++ _) := .append (.of_plain (by decide)) hcall
  have htwo : MatchedParentheses ('(' :: ("2, 3".toList ++ ')' :: [])) :=
    .nested (.of_plain (by decide)) .nil
  have htwice : MatchedParentheses ('(' :: (['1'] ++ ')' :: _)) :=
    .nested (.of_plain (by decide)) htwo
  have ha : ListsField "a" ("a".toList ++ ([] ++ '(' :: (_ ++ [')']))) :=
    .applied (by decide) hnone hnested (by decide)
  have hb : ListsField "b" "b".toList := .bare (by decide)
  have ha' : ListsField "a" ("a".toList ++ ([' '] ++ '(' :: ([] ++ [')']))) :=
    .applied (by decide) hblank .nil (by decide)
  have hc : ListsField "c" ("c".toList ++ ([' '] ++ '(' :: (_ ++ [')']))) :=
    .applied (by decide) hblank htwice (by decide)
  have hlist : ListsFields names cs :=
    .intro htab (.cons ha hnone hblank (.cons hb hblank hnone (.cons ha' hnone hblank
      (.single hc)))) hblank
  exact ⟨hlist, by decide, fieldNames_of_listsFields hlist (by decide) back⟩

end SchemaAtlas

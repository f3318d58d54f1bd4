import SchemaAtlas.Proofs.Schema.InsertedLine
import SchemaAtlas.Proofs.Schema.LineState
import SchemaAtlas.Proofs.Text.Searching

/-!
# The line of an index

`indexOver` is an index over one field as it is written.  If the name of the field is a name at all
(`IsName`), then the line is read as a block attribute whose only field that is
(`BodyLine.ofLine_indexOver`, `fieldNames_indexOver`).  A list is cut at its commas, but not inside of
parentheses: `KeepsItem` says of a text that it stands in one item.

Main statement: put in front of the last line of a model, it adds that index to the model, and what
stands behind moves down by one line (`Schema.ofLines_insert_indexOver`).
-/

namespace SchemaAtlas

open Text

/-- An index over one field. -/
def indexOver (key : String) : String :=
  "@@index([" ++ key ++ "])"

/-- The text can be the name of a field. -/
structure IsName (key : String) : Prop where
  ne_nil : key.toList ≠ []
  isWord : ∀ c ∈ key.toList, isWord c

instance (key : String) : Decidable (IsName key) :=
  decidable_of_iff (key.toList ≠ [] ∧ key.toList.all isWord)
    ⟨fun h => ⟨h.1, List.all_eq_true.1 h.2⟩, fun h => ⟨h.ne_nil, List.all_eq_true.2 h.isWord⟩⟩

theorem IsName.unpadded {name : String} (h : IsName name) : Unpadded name.toList :=
  .of_forall h.ne_nil fun c hc => not_isBlank_of_isWord (h.isWord c hc)

/-- The model with an index over one field in a new line at its end. -/
def Model.indexed (key : String) (m : Model) : Model :=
  { m with indexes := m.indexes ++ [⟨[key], indexOver key⟩], endLine := m.endLine + 1 }

/-! ### Items of a list -/

namespace Attribute

/-- The text stands in one item of a list in which `depth` parentheses are open, and behind it as many
are open. -/
def KeepsItem (depth : Int) (cs : List Char) : Prop :=
  ∀ rest item items, listItems depth rest = item :: items →
    listItems depth (cs ++ rest) = (cs ++ item) :: items

/-- The depth behind a character of a list. -/
def itemDepth (depth : Int) (c : Char) : Int :=
  if c = '(' then depth + 1 else if c = ')' then depth - 1 else depth

theorem listItems_cons {depth : Int} {c : Char} (hcut : c = ',' → depth ≠ 0) {rest item : List Char}
    {items : List (List Char)} (h : listItems (itemDepth depth c) rest = item :: items) :
    listItems depth (c :: rest) = (c :: item) :: items := by
  have hcomma : ¬ (decide (c = ',') && depth == 0) = true := by simpa using hcut
  simp only [itemDepth] at h
  simp only [listItems, if_neg hcomma, h]

theorem listItems_comma (rest : List Char) :
    listItems 0 (',' :: rest) = [] :: listItems 0 rest := rfl

namespace KeepsItem

variable {depth : Int} {cs ds : List Char}

theorem nil : KeepsItem depth [] :=
  fun _ _ _ h => h

theorem append (hcs : KeepsItem depth cs) (hds : KeepsItem depth ds) :
    KeepsItem depth (cs ++ ds) := by
  intro rest item items h
  rw [List.append_assoc, hcs _ _ _ (hds _ _ _ h), List.append_assoc]

theorem cons {c : Char} (hc : c ∉ ['(', ')']) (hcut : c = ',' → depth ≠ 0)
    (hcs : KeepsItem depth cs) : KeepsItem depth (c :: cs) := by
  simp only [List.mem_cons, List.not_mem_nil, or_false, not_or] at hc
  intro rest item items h
  have hdepth : itemDepth depth c = depth := by simp only [itemDepth, if_neg hc.1, if_neg hc.2]
  exact listItems_cons hcut (hdepth.symm ▸ hcs rest item items h)

theorem of_plain (h : ∀ c ∈ cs, c ∉ ['(', ')', ',']) : KeepsItem depth cs := by
  induction cs with
  | nil => exact .nil
  | cons c cs ih =>
    obtain ⟨hc, hcs⟩ := List.forall_mem_cons.1 h
    exact .cons (fun hmem => hc (by simp_all)) (fun hcomma => absurd (by simp [hcomma]) hc) (ih hcs)

theorem listItems_eq (h : KeepsItem 0 cs) : listItems 0 cs = [cs] := by
  simpa using h [] [] [] rfl

/-- A comma that stands in no parentheses ends the item. -/
theorem listItems_append_comma (h : KeepsItem 0 cs) (rest : List Char) :
    listItems 0 (cs ++ ',' :: rest) = cs :: listItems 0 rest := by
  simpa using h _ _ _ (listItems_comma rest)

end KeepsItem

theorem keepsItem_of_isWord {depth : Int} {cs : List Char} (h : ∀ c ∈ cs, isWord c) :
    KeepsItem depth cs := by
  refine .of_plain fun c hc hmem => ?_
  simp only [List.mem_cons, List.not_mem_nil, or_false] at hmem
  obtain rfl | rfl | rfl := hmem <;> exact absurd (h _ hc) (by decide)

end Attribute

/-! ### Reading the line -/

theorem toList_indexOver (key : String) :
    (indexOver key).toList = "@@index([".toList ++ (key.toList ++ [']', ')']) := by
  simp [indexOver]

section

variable {key : String}

/-- Whatever is no character of names occurs in the line only where it is written. -/
theorem notMem_indexOver (hkey : IsName key) {c : Char} (hc : ¬ isWord c)
    (hindex : c ∉ "@@index([".toList ∧ c ∉ [']', ')']) : c ∉ (indexOver key).toList := by
  have hword : c ∉ key.toList := fun h => hc (hkey.isWord c h)
  simp only [toList_indexOver, List.mem_append, not_or]
  exact ⟨hindex.1, hword, hindex.2⟩

theorem balance_indexOver (hkey : IsName key) : Block.balance (indexOver key).toList = 0 := by
  apply Block.balance_of_braceFree
  constructor
  · exact notMem_indexOver hkey (by decide) (by decide)
  · exact notMem_indexOver hkey (by decide) (by decide)

theorem trimRight_indexOver (key : String) :
    trimRight (indexOver key).toList = (indexOver key).toList := by
  have hline : (indexOver key).toList = ("@@index([".toList ++ key.toList ++ [']']) ++ [')'] := by
    simp [toList_indexOver]
  rw [hline, trimRight_append_cons (by decide)]
  rfl

theorem trim_indexOver (key : String) : trim (indexOver key).toList = (indexOver key).toList := by
  have hleft : trimLeft (indexOver key).toList = (indexOver key).toList := by
    rw [toList_indexOver]
    exact List.dropWhile_cons_of_neg (by decide)
  rw [trim, hleft, trimRight_indexOver]

theorem after?_indexOver {word : String} (hne : word.toList ≠ [])
    (hword : word.toList.head? ≠ some '@') (key : String) :
    after? word (indexOver key).toList = none := by
  apply Option.eq_none_iff_forall_ne_some.2
  intro rest hafter
  have hline := eq_append_of_after? hafter
  obtain ⟨c, tail, htail⟩ := List.exists_cons_of_ne_nil hne
  rw [toList_indexOver, htail] at hline
  obtain rfl : '@' = c := (List.cons.inj hline).1
  exact hword (by rw [htail]; rfl)

theorem read?_indexOver (key : String) : Header.read? (indexOver key).toList = none := by
  have hmodel : after? "model" (indexOver key).toList = none :=
    after?_indexOver (by decide) (by decide) key
  have henum : after? "enum" (indexOver key).toList = none :=
    after?_indexOver (by decide) (by decide) key
  simp only [Header.read?, trim_indexOver, Header.name?, hmodel, henum]

theorem codeAndComment_indexOver (hkey : IsName key) :
    (Attribute.codeAndComment (indexOver key).toList).1 = (indexOver key).toList := by
  have hcode : stateAfter (indexOver key).toList = .code := by
    refine LineState.after_of_plain fun c hc => ⟨?_, ?_⟩
    · rintro rfl
      exact notMem_indexOver hkey (by decide) (by decide) hc
    · rintro rfl
      exact notMem_indexOver hkey (by decide) (by decide) hc
  have hne : stateAfter (indexOver key).toList ≠ .comment := by simp [hcode]
  rw [Attribute.codeAndComment_of_ne_comment hne, trimRight_indexOver]

theorem BodyLine.ofLine_indexOver (hkey : IsName key) :
    BodyLine.ofLine (indexOver key).toList = .attribute (indexOver key).toList := by
  have hempty : (indexOver key).toList.isEmpty = false := by simp [toList_indexOver]
  have hcomment : startsWith "//" (indexOver key).toList = false := by
    rw [startsWith_eq_isSome, after?_indexOver (by decide) (by decide)]
    rfl
  have hattribute : startsWith "@@" (indexOver key).toList = true := by
    rw [toList_indexOver]
    rfl
  simp only [BodyLine.ofLine, trim_indexOver, hempty, hcomment, hattribute,
    codeAndComment_indexOver hkey, Bool.false_eq_true, if_false, if_true]

theorem itemField?_of_isName (hkey : IsName key) :
    Attribute.itemField? key.toList = some key := by
  rw [Attribute.itemField?, hkey.unpadded.trim_eq, spanWord_of_isWord hkey.isWord]
  split
  · exact absurd ‹_› hkey.ne_nil
  · simp_all

theorem fieldNames_indexOver (hkey : IsName key) :
    Attribute.fieldNames (indexOver key).toList = [key] := by
  have hclose : ']' ∉ key.toList := fun h => absurd (hkey.isWord _ h) (by decide)
  have hline : (indexOver key).toList =
      "@@index(".toList ++ '[' :: (key.toList ++ ']' :: [')']) := by
    simp [toList_indexOver]
  rw [Attribute.fieldNames, hline, cutFirst?_append_cons (by decide)]
  have hitem := (Attribute.keepsItem_of_isWord hkey.isWord).listItems_eq
  simp only [cutFirst?_append_cons hclose, hitem, List.filterMap_cons, itemField?_of_isName hkey,
    List.filterMap_nil]

end

/-! ### The model and the schema -/

/-- A block attribute at the end of a body changes no field. -/
theorem fieldsFrom_append_attribute {line : Line} {code : List Char}
    (hline : BodyLine.ofLine line = .attribute code) (enums : List String)
    (pending : Option String) (number : Nat) (body : List Line) :
    fieldsFrom enums pending number (body ++ [line]) = fieldsFrom enums pending number body := by
  fun_induction fieldsFrom enums pending number body with
  | case1 => simp only [List.nil_append, fieldsFrom, hline]
  | case2 pending number first rest hfirst ih
  | case3 pending number first rest text hfirst ih
  | case4 pending number first rest code hfirst ih =>
    simp only [List.cons_append, fieldsFrom, hfirst]
    exact ih
  | case5 pending number first rest text hfirst f hf ih =>
    simp only [List.cons_append, fieldsFrom, hfirst, hf, ih]
  | case6 pending number first rest text hfirst hf ih =>
    simp only [List.cons_append, fieldsFrom, hfirst, hf]
    exact ih

theorem Model.ofBlock_extended_indexOver {key : String} (hkey : IsName key) (enums : List String)
    (number : Nat) (name : String) (block : Block) :
    Model.ofBlock enums number name (block.extended (indexOver key).toList) =
      (Model.ofBlock enums number name block).indexed key := by
  have hline := BodyLine.ofLine_indexOver hkey
  have hcomment : commentLine? (indexOver key).toList = none := by
    simp only [commentLine?, hline]
  have hattribute : ∀ word, attributeLine? word (indexOver key).toList =
      if startsWith word (indexOver key).toList then some (indexOver key).toList else none := by
    intro word
    simp only [attributeLine?, hline]
  have hindex : startsWith "@@index(" (indexOver key).toList = true := by
    rw [toList_indexOver]
    rfl
  have hunique : startsWith "@@unique(" (indexOver key).toList = false := by
    rw [toList_indexOver]
    rfl
  have hmap : startsWith "@@map(" (indexOver key).toList = false := by
    rw [toList_indexOver]
    rfl
  simp only [Model.ofBlock, Block.extended, Model.indexed, BlockAttribute.ofBody,
    fieldsFrom_append_attribute hline, List.filterMap_append, List.filterMap_cons,
    List.filterMap_nil, hcomment, hattribute, hindex, hunique, hmap, if_true, Bool.false_eq_true, if_false,
    List.append_nil, List.map_append, List.map_cons, List.map_nil, fieldNames_indexOver hkey,
    String.ofList_toList, Nat.add_assoc]

/-- An index over one field, put in front of the last line of a model, is added to this model, and
the models behind it move down by one line. -/
theorem Schema.ofLines_insert_indexOver {key : String} (hkey : IsName key) {above below : List Line}
    {front back : List Model} {m : Model}
    (hmodels : (ofLines (above ++ below)).models = front ++ m :: back)
    (hopen : m.line < m.endLine) (hlength : above.length + 1 = m.endLine) :
    ofLines (above ++ (indexOver key).toList :: below) =
      ⟨front ++ m.indexed key :: back.map (.moved 1), (ofLines (above ++ below)).enumerations⟩ := by
  obtain ⟨henumerations, enums, name, block, hm, hinsert⟩ :=
    ofLines_insert (balance_indexOver hkey) (read?_indexOver key) hmodels hopen hlength
  rw [Model.ofBlock_extended_indexOver hkey, hm] at hinsert
  rw [← henumerations, ← hinsert]

end SchemaAtlas

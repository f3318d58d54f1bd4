import SchemaAtlas.Proofs.Schema.AppendedComments

/-!
# The body of a model

A model is read line by line, and a comment on a line of its own waits for the next field.
`BodyState` is what has been read so far together with the comment that waits.  In contrast,
`Model.GivenBy` says of each part of a model which lines it comes from, by their text and place
alone; `commentAbove?` is the comment that counts for a line, found by looking upwards.

The comment that waits is the one that is found by looking upwards, whatever the line
(`commentAbove?_concat`).

Main statement: a model is given by its body, and it is what one reading of all lines ends with
(`Model.ofBlock_givenBy`).
-/

namespace SchemaAtlas

open Text

/-! ### Lines and their place -/

/-- The line starts with the mark of a block attribute. -/
def isBlockLine (line : Line) : Bool :=
  startsWith "@@" (trim line)

/-- The text of a line that starts with two slashes. -/
def slashLine? (line : Line) : Option String :=
  if startsWith "//" (trim line) then some (.ofList (trim ((trim line).dropWhile (· == '/'))))
  else none

/-- The text of the last of the lines that starts with two slashes, if all lines behind it start
with the mark of a block attribute. -/
def commentAbove? (above : List Line) : Option String :=
  (above.reverse.dropWhile isBlockLine).head?.bind slashLine?

/-- The line without its comment. -/
def codeOf (line : Line) : List Char :=
  (Attribute.codeAndComment (trim line)).1

/-- The field on a line of a model, with a comment of its own or else the one above it. -/
def Field.withComment? (enums : List String) (number : Nat) (above : Option String) (line : Line) :
    Option Field :=
  if isFieldLine line then
    (Field.read? enums none number line).map fun f => { f with comment := f.comment <|> above }
  else none

/-- The block attributes whose code starts with `word`. -/
def blockAttributesOf (word : String) (body : List Line) : List BlockAttribute :=
  ((body.map codeOf).filter (startsWith word)).map fun code =>
    ⟨Attribute.fieldNames code, .ofList code⟩

/-- What the lines of the body say, where the header has the given number. -/
structure Model.GivenBy (enums : List String) (number : Nat) (body : List Line) (m : Model) :
    Prop where
  fields : m.fields = body.zipIdx.filterMap fun p =>
    Field.withComment? enums (number + 1 + p.2) (commentAbove? (body.take p.2)) p.1
  comments : m.comments = body.filterMap slashLine?
  indexes : m.indexes = blockAttributesOf "@@index(" body
  uniqueConstraints : m.uniqueConstraints = blockAttributesOf "@@unique(" body
  mappedName : m.mappedName =
    ((body.map codeOf).filter (startsWith "@@map(")).getLast?.bind Attribute.mappedName?

/-! ### One line -/

theorem Attribute.cutComment_isPrefix (inside : Bool) (cs : List Char) :
    (cutComment inside cs).1 <+: cs := by
  induction inside, cs using cutComment.induct with
  | case1 inside => exact List.prefix_rfl
  | case2 => exact List.prefix_rfl
  | case3 d cs ih => exact (List.prefix_cons_inj _).2 ((List.prefix_cons_inj d).2 ih)
  | case4 c cs hc ih =>
    rw [cutComment_quoted hc]
    exact (List.prefix_cons_inj c).2 ih
  | case5 inside c cs hinside hcomment =>
    rw [cutComment.eq_def]
    simp [hinside, hcomment]
  | case6 inside c cs hinside hcode ih =>
    obtain rfl : inside = false := by simpa using hinside
    rw [cutComment_code (by simpa using hcode)]
    exact (List.prefix_cons_inj c).2 ih

theorem codeOf_isPrefix (line : Line) : codeOf line <+: trim line := by
  obtain ⟨blanks, hcut, -⟩ := exists_eq_trimRight_append (Attribute.cutComment false (trim line)).1
  have hcode : codeOf line <+: (Attribute.cutComment false (trim line)).1 := ⟨blanks, hcut.symm⟩
  exact hcode.trans (Attribute.cutComment_isPrefix false (trim line))

/-- A line that starts with the mark of a block attribute is neither blank nor a comment. -/
theorem isRemark_of_isBlockLine {line : Line} (h : isBlockLine line) :
    isRemark (trim line) = false := by
  obtain ⟨rest, hline⟩ := startsWith_iff.1 h
  rw [← hline]
  rfl

/-- Only a line that starts with the mark of a block attribute has the code of one. -/
theorem attributeLine?_eq {word : String} (hword : "@@".toList <+: word.toList) (line : Line) :
    attributeLine? word line =
      if startsWith word (codeOf line) then some (codeOf line) else none := by
  rw [attributeLine?_eq_ite]
  by_cases hcode : startsWith word (codeOf line)
  · have hblock : isBlockLine line :=
      startsWith_iff.2 ((hword.trans (startsWith_iff.1 hcode)).trans (codeOf_isPrefix line))
    have hremark := isRemark_of_isBlockLine hblock
    rw [isBlockLine] at hblock
    rw [codeOf] at hcode ⊢
    simp only [hremark, hblock, hcode, Bool.not_false, Bool.and_self, if_true]
  · rw [codeOf] at hcode ⊢
    simp only [hcode, Bool.and_false]

theorem commentLine?_eq (line : Line) : commentLine? line = slashLine? line := by
  simp only [commentLine?, slashLine?, BodyLine.ofLine]
  by_cases hempty : (trim line).isEmpty
  · have hnil : trim line = [] := List.isEmpty_iff.1 hempty
    rw [hnil]
    rfl
  · split_ifs <;> simp_all

theorem isBlockLine_iff {line : Line} :
    isBlockLine line ↔ ∃ code, BodyLine.ofLine line = .attribute code := by
  constructor
  · intro h
    have hremark := isRemark_of_isBlockLine h
    obtain ⟨hempty, hcomment⟩ :
        (trim line).isEmpty = false ∧ startsWith "//" (trim line) = false := by
      simpa [isRemark] using hremark
    rw [isBlockLine] at h
    exact ⟨codeOf line, by simp [BodyLine.ofLine, hempty, hcomment, h, codeOf]⟩
  · rintro ⟨code, h⟩
    simp only [BodyLine.ofLine] at h
    split_ifs at h with hempty hcomment hblock
    exact hblock

/-- A comment waits up to the next line that starts no block attribute. -/
theorem commentAbove?_concat (above : List Line) (line : Line) :
    commentAbove? (above ++ [line]) =
      match BodyLine.ofLine line with
      | .attribute _ => commentAbove? above
      | .comment text => some text
      | .blank | .field _ => none := by
  have hcons : commentAbove? (above ++ [line]) =
      if isBlockLine line then commentAbove? above else commentLine? line := by
    rw [commentLine?_eq, commentAbove?, List.reverse_concat, List.dropWhile_cons]
    split <;> rfl
  have hother : (∀ code, BodyLine.ofLine line ≠ .attribute code) → ¬ isBlockLine line := by
    intro hne h
    obtain ⟨code, hline⟩ := isBlockLine_iff.1 h
    exact hne code hline
  rw [hcons]
  rcases hline : BodyLine.ofLine line with _ | text | code | text
  · rw [if_neg (hother (by simp [hline])), commentLine?, hline]
  · rw [if_neg (hother (by simp [hline])), commentLine?, hline]
  · rw [if_pos (isBlockLine_iff.2 ⟨code, hline⟩)]
  · rw [if_neg (hother (by simp [hline])), commentLine?, hline]

theorem commentAbove?_eq_some_iff {above : List Line} {text : String} :
    commentAbove? above = some text ↔ ∃ front line between, above = front ++ line :: between ∧
      slashLine? line = some text ∧ ∀ l ∈ between, isBlockLine l := by
  have hstop : ∀ {line text}, slashLine? line = some text → ¬ isBlockLine line := by
    intro line text htext hblock
    obtain ⟨code, hline⟩ := isBlockLine_iff.1 hblock
    rw [← commentLine?_eq, commentLine?, hline] at htext
    cases htext
  constructor
  · intro h
    obtain ⟨line, hhead, htext⟩ := Option.bind_eq_some_iff.1 h
    obtain ⟨rest, hrest⟩ := List.head?_eq_some_iff.1 hhead
    have hsplit := List.takeWhile_append_dropWhile (p := isBlockLine) (l := above.reverse)
    rw [hrest] at hsplit
    refine ⟨rest.reverse, line, (above.reverse.takeWhile isBlockLine).reverse, ?_, htext, ?_⟩
    · have hreverse := congrArg List.reverse hsplit
      rw [List.reverse_reverse] at hreverse
      exact hreverse.symm.trans (by simp)
    · intro l hl
      exact List.mem_takeWhile_imp (List.mem_reverse.1 hl)
  · rintro ⟨front, line, between, rfl, htext, hbetween⟩
    have hblocks : ∀ l ∈ between.reverse, isBlockLine l :=
      fun l hl => hbetween l (List.mem_reverse.1 hl)
    rw [commentAbove?, List.reverse_append, List.reverse_cons, List.append_assoc,
      List.dropWhile_append_of_pos hblocks, List.singleton_append,
      List.dropWhile_cons_of_neg (hstop htext)]
    exact htext

/-! ### The fields -/

theorem Field.withComment?_eq (enums : List String) (number : Nat) (above : Option String)
    (line : Line) : Field.withComment? enums number above line =
      if isFieldLine line then Field.read? enums above number line else none := by
  have hread : (Field.read? enums none number line).map
      (fun f => { f with comment := f.comment <|> above }) =
        Field.read? enums above number line := by
    simp only [Field.read?, Option.map_map]
    congr 1
    funext signature
    simp
  rw [Field.withComment?, hread]

theorem Field.withComment?_of_field {line : Line} {text : List Char}
    (h : BodyLine.ofLine line = .field text) (enums : List String) (number : Nat)
    (above : Option String) :
    Field.withComment? enums number above line = Field.read? enums above number text := by
  obtain ⟨hline, rfl⟩ := BodyLine.ofLine_eq_field_iff.1 h
  rw [Field.withComment?_eq, if_pos hline, Field.read?_trim]

theorem Field.withComment?_of_ne_field {line : Line}
    (h : ∀ text, BodyLine.ofLine line ≠ .field text) (enums : List String) (number : Nat)
    (above : Option String) : Field.withComment? enums number above line = none :=
  if_neg fun hline => h _ (BodyLine.ofLine_eq_field_iff.2 ⟨hline, rfl⟩)

/-- Behind the lines above, the fields are what their lines and the comments above them say. -/
theorem fieldsFrom_eq_filterMap (enums : List String) (number : Nat) (above body : List Line) :
    fieldsFrom enums (commentAbove? above) (number + above.length) body =
      (body.zipIdx above.length).filterMap fun p =>
        Field.withComment? enums (number + p.2) (commentAbove? ((above ++ body).take p.2)) p.1 := by
  induction body generalizing above with
  | nil => rfl
  | cons line body ih =>
    have htake : (above ++ line :: body).take above.length = above := List.take_left
    have hrest := ih (above ++ [line])
    rw [List.length_append, List.length_singleton, ← Nat.add_assoc, List.append_assoc,
      List.singleton_append, commentAbove?_concat] at hrest
    rw [List.zipIdx_cons, List.filterMap_cons, ← hrest, htake]
    rcases hline : BodyLine.ofLine line with _ | text | code | text
    · rw [Field.withComment?_of_ne_field (by simp [hline])]
      simp only [fieldsFrom, hline]
    · rw [Field.withComment?_of_ne_field (by simp [hline])]
      simp only [fieldsFrom, hline]
    · rw [Field.withComment?_of_ne_field (by simp [hline])]
      simp only [fieldsFrom, hline]
    · rw [Field.withComment?_of_field hline]
      simp only [fieldsFrom, hline]
      cases Field.read? enums (commentAbove? above) (number + above.length) text <;> rfl

/-! ### One reading of all lines -/

/-- What has been read of a model, and the comment that waits for a field. -/
structure BodyState where
  fields : List Field := []
  comments : List String := []
  indexes : List BlockAttribute := []
  uniqueConstraints : List BlockAttribute := []
  mappedName : Option String := none
  pending : Option String := none

namespace BodyState

/-- One more line, with its number. -/
def step (enums : List String) (s : BodyState) (p : Line × Nat) : BodyState :=
  match BodyLine.ofLine p.1 with
  | .blank => { s with pending := none }
  | .comment text => { s with pending := some text, comments := s.comments ++ [text] }
  | .attribute code =>
    if startsWith "@@map(" code then { s with mappedName := Attribute.mappedName? code }
    else if startsWith "@@index(" code then
      { s with indexes := s.indexes ++ [⟨Attribute.fieldNames code, .ofList code⟩] }
    else if startsWith "@@unique(" code then
      { s with uniqueConstraints :=
        s.uniqueConstraints ++ [⟨Attribute.fieldNames code, .ofList code⟩] }
    else s
  | .field text =>
    { s with fields := s.fields ++ (Field.read? enums s.pending p.2 text).toList, pending := none }

/-- All lines, where the first one has the given number. -/
def after (enums : List String) (number : Nat) (lines : List Line) : BodyState :=
  (lines.zipIdx number).foldl (step enums) {}

/-- The model that has been read. -/
def model (s : BodyState) (name : String) (line endLine : Nat) : Model :=
  ⟨name, s.fields, s.mappedName, s.indexes, s.uniqueConstraints, s.comments, line, endLine⟩

end BodyState

theorem fieldsFrom_append (enums : List String) (number : Nat) (above body more : List Line) :
    fieldsFrom enums (commentAbove? above) number (body ++ more) =
      fieldsFrom enums (commentAbove? above) number body ++
        fieldsFrom enums (commentAbove? (above ++ body)) (number + body.length) more := by
  induction body generalizing number above with
  | nil => simp [fieldsFrom]
  | cons line body ih =>
    have hrest := ih (number + 1) (above ++ [line])
    rw [List.append_assoc, List.singleton_append, commentAbove?_concat, Nat.add_assoc,
      Nat.add_comm 1, ← List.length_cons (a := line)] at hrest
    rcases hline : BodyLine.ofLine line with _ | text | code | text
    · simp only [hline] at hrest
      simp only [List.cons_append, fieldsFrom, hline, hrest]
    · simp only [hline] at hrest
      simp only [List.cons_append, fieldsFrom, hline, hrest]
    · simp only [hline] at hrest
      simp only [List.cons_append, fieldsFrom, hline, hrest]
    · simp only [hline] at hrest
      simp only [List.cons_append, fieldsFrom, hline, hrest]
      cases Field.read? enums (commentAbove? above) number text <;> rfl

/-- The comment that waits is the one above the next line, and the rest is what the lines that have
been read say. -/
theorem BodyState.after_eq (enums : List String) (number : Nat) (lines : List Line) :
    after enums number lines = {
      fields := fieldsFrom enums none number lines
      comments := lines.filterMap commentLine?
      indexes := BlockAttribute.ofBody "@@index(" lines
      uniqueConstraints := BlockAttribute.ofBody "@@unique(" lines
      mappedName := (lines.filterMap (attributeLine? "@@map(")).getLast?.bind Attribute.mappedName?
      pending := commentAbove? lines } := by
  induction lines using List.reverseRecOn with
  | nil => rfl
  | append_singleton lines line ih =>
    have hfields : fieldsFrom enums none number (lines ++ [line]) =
        fieldsFrom enums none number lines ++
          fieldsFrom enums (commentAbove? lines) (number + lines.length) [line] :=
      fieldsFrom_append enums number [] lines [line]
    have hafter : after enums number (lines ++ [line]) =
        (after enums number lines).step enums (line, number + lines.length) := by
      rw [after, List.zipIdx_append, List.foldl_append]
      rfl
    rw [hafter, ih, hfields]
    simp only [step, fieldsFrom, BlockAttribute.ofBody, List.filterMap_append, List.filterMap_cons,
      List.filterMap_nil, commentLine?, attributeLine?, commentAbove?_concat]
    rcases hline : BodyLine.ofLine line with _ | text | code | text
    · simp
    · simp
    · by_cases hmap : startsWith "@@map(" code
      · have hindex := startsWith_eq_false "@@index(" (by decide) (by decide) hmap
        have hunique := startsWith_eq_false "@@unique(" (by decide) (by decide) hmap
        simp [hmap, hindex, hunique]
      · by_cases hindex : startsWith "@@index(" code
        · have hunique := startsWith_eq_false "@@unique(" (by decide) (by decide) hindex
          simp [hmap, hindex, hunique]
        · by_cases hunique : startsWith "@@unique(" code <;> simp [hmap, hindex, hunique]
    · cases hread : Field.read? enums (commentAbove? lines) (number + lines.length) text <;>
        simp [hread]

/-! ### The model -/

theorem filterMap_attributeLine? (word : String) (hword : "@@".toList <+: word.toList)
    (body : List Line) :
    body.filterMap (attributeLine? word) = (body.map codeOf).filter (startsWith word) := by
  rw [List.filter_map, ← List.filterMap_eq_map, List.filterMap_filter]
  congr 1
  funext line
  exact attributeLine?_eq hword line

theorem blockAttributesOf_eq {word : String} (hword : "@@".toList <+: word.toList)
    (body : List Line) : BlockAttribute.ofBody word body = blockAttributesOf word body := by
  rw [BlockAttribute.ofBody, filterMap_attributeLine? word hword, blockAttributesOf]

/-- A model is given by the lines of its body, and one reading of these lines, in which a comment
waits for the next field, comes to the same. -/
theorem Model.ofBlock_givenBy (enums : List String) (number : Nat) (name : String) (block : Block) :
    let m := Model.ofBlock enums number name block
    m.GivenBy enums number block.body ∧
      m = (BodyState.after enums (number + 1) block.body).model name number
        (number + block.extent) := by
  intro m
  refine ⟨⟨?_, ?_, ?_, ?_, ?_⟩, ?_⟩
  · exact fieldsFrom_eq_filterMap enums (number + 1) [] block.body
  · exact congrArg (block.body.filterMap ·) (funext commentLine?_eq)
  · exact blockAttributesOf_eq (by decide) block.body
  · exact blockAttributesOf_eq (by decide) block.body
  · exact congrArg (·.getLast?.bind Attribute.mappedName?)
      (filterMap_attributeLine? "@@map(" (by decide) block.body)
  · rw [BodyState.after_eq]
    rfl

/-- A comment goes past a block attribute, but not past a blank line or a line that is no field. -/
example : (Model.ofBlock [] 1 "A" ⟨["  /// key", "  @@map(\"a\")", "  id Int", "  // lost", "",
      "  x Int", "  // lost", "  ?", "  y Int // own"].map String.toList, 10⟩).fields.map
      Field.comment = [some "key", none, some "own"] := by
  decide +kernel

end SchemaAtlas

import SchemaAtlas.Proofs.Text.Trimming
import SchemaAtlas.Schema.Source

/-!
# The fields of a model, line by line

Up to its comment, which may stand on a line above, a field is given by its own line alone:
`Field.ofLine?` reads that line, and `plainFields` are the fields that the lines of a body give one
after another.  The fields of a model are its plain fields with comments added
(`map_withoutComment_fieldsFrom`), so each of them has the number of the line that it is on
(`mem_fieldsFrom`), and the numbers increase (`pairwise_fieldsFrom`).
-/

namespace SchemaAtlas

open Text

/-- The field without its comment. -/
def Field.withoutComment (f : Field) : Field :=
  { f with comment := none }

/-- The line of a model can hold a field: it is not blank, no comment and no block attribute. -/
def isFieldLine (line : Line) : Bool :=
  !(trim line).isEmpty && !startsWith "//" (trim line) && !startsWith "@@" (trim line)

/-- The field that a line of a model gives by itself, without a comment. -/
def Field.ofLine? (enums : List String) (number : Nat) (line : Line) : Option Field :=
  if isFieldLine line then (Field.read? enums none number line).map Field.withoutComment else none

/-- The fields that the lines of a body give, where the first line has the given number. -/
def plainFields (enums : List String) (number : Nat) (body : List Line) : List Field :=
  (body.zipIdx number).filterMap fun p => Field.ofLine? enums p.2 p.1

/-! ### One line -/

/-- The comment above a line has no influence on anything but the comment of the field. -/
theorem Field.map_withoutComment_read? (enums : List String) (pending : Option String)
    (number : Nat) (line : Line) :
    (Field.read? enums pending number line).map Field.withoutComment =
      (Field.read? enums none number line).map Field.withoutComment := by
  simp only [Field.read?, Option.map_map]
  rfl

theorem Field.read?_trim (enums : List String) (pending : Option String) (number : Nat)
    (line : Line) :
    Field.read? enums pending number (trim line) = Field.read? enums pending number line := by
  simp only [Field.read?, trim_trim]

theorem BodyLine.ofLine_eq_field_iff {line : Line} {text : List Char} :
    BodyLine.ofLine line = .field text ↔ isFieldLine line ∧ trim line = text := by
  simp only [BodyLine.ofLine, isFieldLine]
  split_ifs <;> simp_all

theorem Field.ofLine?_of_field {line : Line} {text : List Char}
    (h : BodyLine.ofLine line = .field text) (enums : List String) (pending : Option String)
    (number : Nat) :
    Field.ofLine? enums number line =
      (Field.read? enums pending number text).map Field.withoutComment := by
  obtain ⟨hline, rfl⟩ := BodyLine.ofLine_eq_field_iff.1 h
  rw [Field.ofLine?, if_pos hline, Field.read?_trim,
    ← Field.map_withoutComment_read? enums pending number line]

theorem Field.ofLine?_of_ne_field {line : Line} (h : ∀ text, BodyLine.ofLine line ≠ .field text)
    (enums : List String) (number : Nat) : Field.ofLine? enums number line = none :=
  if_neg fun hline => h _ (BodyLine.ofLine_eq_field_iff.2 ⟨hline, rfl⟩)

theorem Field.line_of_ofLine? {enums : List String} {number : Nat} {line : Line} {f : Field}
    (h : Field.ofLine? enums number line = some f) : f.line = number := by
  unfold Field.ofLine? at h
  split at h
  · obtain ⟨g, hg, rfl⟩ := Option.map_eq_some_iff.1 h
    exact show g.line = number from Field.line_of_read? hg
  · cases h

/-! ### All lines of a body -/

theorem plainFields_cons (enums : List String) (number : Nat) (line : Line) (rest : List Line) :
    plainFields enums number (line :: rest) =
      (Field.ofLine? enums number line).toList ++ plainFields enums (number + 1) rest := by
  unfold plainFields
  rw [List.zipIdx_cons]
  cases h : Field.ofLine? enums number line with
  | none => exact List.filterMap_cons_none h
  | some f => exact List.filterMap_cons_some h

/-- Comments apart, the fields of a body are those that its lines give by themselves. -/
theorem map_withoutComment_fieldsFrom (enums : List String) (pending : Option String)
    (number : Nat) (body : List Line) :
    (fieldsFrom enums pending number body).map Field.withoutComment =
      plainFields enums number body := by
  fun_induction fieldsFrom enums pending number body with
  | case1 => rfl
  | case2 pending number line rest hline ih
  | case3 pending number line rest text hline ih
  | case4 pending number line rest code hline ih =>
    have hnone : Field.ofLine? enums number line = none :=
      Field.ofLine?_of_ne_field (by simp [hline]) enums number
    rw [plainFields_cons, hnone, ih]
    rfl
  | case5 pending number line rest text hline f hf ih =>
    rw [plainFields_cons, Field.ofLine?_of_field hline enums pending, hf, List.map_cons, ih]
    rfl
  | case6 pending number line rest text hline hf ih =>
    rw [plainFields_cons, Field.ofLine?_of_field hline enums pending, hf, ih]
    rfl

theorem mem_plainFields_iff {enums : List String} {number : Nat} {body : List Line} {f : Field} :
    f ∈ plainFields enums number body ↔ number ≤ f.line ∧
      ∃ line, body[f.line - number]? = some line ∧ Field.ofLine? enums f.line line = some f := by
  simp only [plainFields, List.mem_filterMap, Prod.exists,
    List.mk_mem_zipIdx_iff_le_and_getElem?_sub]
  constructor
  · rintro ⟨line, i, ⟨hle, hline⟩, hf⟩
    obtain rfl := Field.line_of_ofLine? hf
    exact ⟨hle, line, hline, hf⟩
  · rintro ⟨hle, line, hline, hf⟩
    exact ⟨line, f.line, ⟨hle, hline⟩, hf⟩

theorem pairwise_plainFields (enums : List String) (number : Nat) (body : List Line) :
    (plainFields enums number body).Pairwise fun f g => f.line < g.line := by
  induction body generalizing number with
  | nil => exact .nil
  | cons line rest ih =>
    rw [plainFields_cons, List.pairwise_append]
    refine ⟨?_, ih (number + 1), fun f hf g hg => ?_⟩
    · cases Field.ofLine? enums number line <;> simp
    · have hline := Field.line_of_ofLine? (Option.mem_toList.1 hf)
      have hle := (mem_plainFields_iff.1 hg).1
      omega

theorem mem_fieldsFrom {enums : List String} {pending : Option String} {number : Nat}
    {body : List Line} {f : Field} (h : f ∈ fieldsFrom enums pending number body) :
    number ≤ f.line ∧ ∃ line, body[f.line - number]? = some line ∧
      Field.ofLine? enums f.line line = some f.withoutComment := by
  have hplain : f.withoutComment ∈ plainFields enums number body := by
    rw [← map_withoutComment_fieldsFrom enums pending]
    exact List.mem_map_of_mem h
  exact mem_plainFields_iff.1 hplain

theorem pairwise_fieldsFrom (enums : List String) (pending : Option String) (number : Nat)
    (body : List Line) :
    (fieldsFrom enums pending number body).Pairwise fun f g => f.line < g.line := by
  have hplain := pairwise_plainFields enums number body
  rw [← map_withoutComment_fieldsFrom enums pending, List.pairwise_map] at hplain
  exact hplain

end SchemaAtlas

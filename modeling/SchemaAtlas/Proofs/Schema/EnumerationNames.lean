import SchemaAtlas.Proofs.Schema.BodyFields
import SchemaAtlas.Proofs.Schema.Placement

/-!
# The names of enumerations

A schema knows the names of enumerations twice: `declaredEnumerations` takes them from every line
that has the form of a header, and the enumerations themselves come from the blocks that are read.
The kind of a field goes by the first (`kind_eq_ofType`).

Main statements: the second are among the first, so a field may use an enumeration that is declared
behind it (`kinds_resolve`); and a name among the first belongs to an enumeration of the schema
exactly if one of the lines that give it is an outer line, one that is neither inside a block nor
behind the place where reading stops (`enumeration_fields_declared`).
-/

namespace SchemaAtlas

open Text

/-! ### Kinds -/

namespace FieldKind

variable {enums : List String} {baseType : String}

theorem ofType_eq_scalar_iff : ofType enums baseType = .scalar ↔ baseType ∈ builtinTypes := by
  simp only [ofType, List.contains_iff_mem]
  split_ifs <;> simp_all

theorem ofType_eq_enumeration_iff :
    ofType enums baseType = .enumeration ↔ baseType ∉ builtinTypes ∧ baseType ∈ enums := by
  simp only [ofType, List.contains_iff_mem]
  split_ifs <;> simp_all

theorem ofType_eq_relation_iff :
    ofType enums baseType = .relation ↔ baseType ∉ builtinTypes ∧ baseType ∉ enums := by
  simp only [ofType, List.contains_iff_mem]
  split_ifs <;> simp_all

end FieldKind

theorem Field.kind_of_ofLine? {enums : List String} {number : Nat} {line : Line} {f : Field}
    (h : Field.ofLine? enums number line = some f) : f.kind = .ofType enums f.baseType := by
  unfold Field.ofLine? at h
  split at h
  · obtain ⟨g, hg, rfl⟩ := Option.map_eq_some_iff.1 h
    exact show g.kind = .ofType enums g.baseType from Field.kind_of_read? hg
  · cases h

theorem kind_eq_ofType {lines : List Line} {m : Model} (hm : m ∈ (Schema.ofLines lines).models)
    {f : Field} (hf : f ∈ m.fields) :
    f.kind = .ofType (declaredEnumerations lines) f.baseType := by
  obtain ⟨p, -, -, rfl⟩ := Schema.mem_models_ofLines_iff.1 hm
  obtain ⟨-, line, -, hline⟩ := mem_fieldsFrom hf
  have hkind := Field.kind_of_ofLine? hline
  exact hkind

/-! ### Lines that declare an enumeration -/

/-- The line with number `i` has the form of the header of an enumeration of the given name. -/
def DeclaresEnumeration (lines : List Line) (name : String) (i : Nat) : Prop :=
  1 ≤ i ∧ ∃ line, lines[i - 1]? = some line ∧ Header.read? line = some ⟨.enumeration, name⟩

/-- The line with number `i` is outside of all blocks that are read, and reading gets to it. -/
structure IsOuterLine (lines : List Line) (i : Nat) : Prop where
  not_encloses : ∀ p ∈ placedFrom 1 0 lines, ¬ p.Encloses i
  lt_unclosed : ∀ k ∈ unclosedFrom 1 0 lines, i < k

theorem enumerationHeader?_eq_some_iff {line : Line} {name : String} :
    enumerationHeader? line = some name ↔ Header.read? line = some ⟨.enumeration, name⟩ := by
  unfold enumerationHeader?
  split
  · simp_all
  · rename_i hne
    simp only [reduceCtorEq, false_iff]
    exact hne name

theorem mem_declaredEnumerations_iff {lines : List Line} {name : String} :
    name ∈ declaredEnumerations lines ↔ ∃ i, DeclaresEnumeration lines name i := by
  simp only [declaredEnumerations, List.mem_eraseDups, List.mem_filterMap,
    enumerationHeader?_eq_some_iff]
  constructor
  · rintro ⟨line, hline, hheader⟩
    obtain ⟨i, hi⟩ := List.mem_iff_getElem?.1 hline
    exact ⟨i + 1, Nat.succ_pos i, line, hi, hheader⟩
  · rintro ⟨i, -, line, hline, hheader⟩
    exact ⟨line, List.mem_of_getElem? hline, hheader⟩

theorem PlacedBlock.StandsIn.declaresEnumeration {lines : List Line} {p : PlacedBlock}
    {name : String} (hp : p.StandsIn 1 lines) (hheader : p.header = ⟨.enumeration, name⟩) :
    DeclaresEnumeration lines name p.number := by
  obtain ⟨line, hline, hread⟩ := hp.getElem?_number
  exact ⟨hp.le_number, line, hline, by rw [hread, hheader]⟩

theorem isOuterLine_number {lines : List Line} {p : PlacedBlock} (hp : p ∈ placedFrom 1 0 lines) :
    IsOuterLine lines p.number where
  not_encloses _ hq := not_encloses_number hp hq
  lt_unclosed k hk := by
    have hlast := (lastNumber_lt_of_unclosedFrom hk).2 p hp
    exact Nat.lt_of_le_of_lt (Nat.le_add_right _ _) hlast

/-- The enumerations of a schema are those that an outer line declares. -/
theorem mem_enumerationNames_iff {lines : List Line} {name : String} :
    name ∈ (Schema.ofLines lines).enumerationNames ↔
      ∃ i, DeclaresEnumeration lines name i ∧ IsOuterLine lines i := by
  rw [Schema.mem_enumerationNames_ofLines_iff]
  constructor
  · rintro ⟨p, hp, hheader⟩
    exact ⟨p.number, (standsIn_of_mem_placedFrom hp).declaresEnumeration hheader,
      isOuterLine_number hp⟩
  · rintro ⟨i, ⟨hi, line, hline, hheader⟩, houter⟩
    obtain h | ⟨p, hp, -, hheader⟩ | ⟨p, hp, h⟩ | ⟨k, hk, hle⟩ :=
      header_cases 0 hi hline hheader
    · omega
    · exact ⟨p, hp, hheader⟩
    · exact absurd h (houter.not_encloses p hp)
    · exact absurd (houter.lt_unclosed k hk) (Nat.not_lt_of_le hle)

theorem declaredEnumerations_of_mem_enumerationNames {lines : List Line} {name : String}
    (h : name ∈ (Schema.ofLines lines).enumerationNames) : name ∈ declaredEnumerations lines := by
  obtain ⟨i, hi, -⟩ := mem_enumerationNames_iff.1 h
  exact mem_declaredEnumerations_iff.2 ⟨i, hi⟩

/-! ### What the kinds of fields say -/

/-- Wherever an enumeration stands in the text, a field of its type has its kind, and a field is a
relation only if its type is neither built in nor an enumeration of the schema. -/
theorem kinds_resolve (text : String) :
    (∀ e ∈ (Schema.ofText text).enumerations,
      e.name ∈ declaredEnumerations (lines text.toList)) ∧
    ∀ m ∈ (Schema.ofText text).models, ∀ f ∈ m.fields,
      (f.baseType ∉ builtinTypes → f.baseType ∈ (Schema.ofText text).enumerationNames →
        f.kind = .enumeration) ∧
      (f.baseType ∈ builtinTypes → f.kind = .scalar) ∧
      (f.kind = .relation →
        f.baseType ∉ builtinTypes ∧ f.baseType ∉ (Schema.ofText text).enumerationNames) := by
  refine ⟨fun e he => ?_, fun m hm f hf => ?_⟩
  · exact declaredEnumerations_of_mem_enumerationNames (List.mem_map_of_mem he)
  · rw [kind_eq_ofType hm hf]
    refine ⟨fun hb hname => ?_, FieldKind.ofType_eq_scalar_iff.2, fun hrel => ?_⟩
    · have hdeclared := declaredEnumerations_of_mem_enumerationNames hname
      exact FieldKind.ofType_eq_enumeration_iff.2 ⟨hb, hdeclared⟩
    · obtain ⟨hb, hdeclared⟩ := FieldKind.ofType_eq_relation_iff.1 hrel
      exact ⟨hb, fun hname => hdeclared (declaredEnumerations_of_mem_enumerationNames hname)⟩

/-- The type of an enumeration field is declared on some line, and it is an enumeration of the schema
exactly if an outer line declares it. -/
theorem enumeration_fields_declared (text : String) :
    ∀ m ∈ (Schema.ofText text).models, ∀ f ∈ m.fields, f.kind = .enumeration →
      f.baseType ∉ builtinTypes ∧
      (∃ i, DeclaresEnumeration (lines text.toList) f.baseType i) ∧
      (f.baseType ∈ (Schema.ofText text).enumerationNames ↔
        ∃ i, DeclaresEnumeration (lines text.toList) f.baseType i ∧
          IsOuterLine (lines text.toList) i) := by
  intro m hm f hf hkind
  rw [kind_eq_ofType hm hf] at hkind
  obtain ⟨hb, hdeclared⟩ := FieldKind.ofType_eq_enumeration_iff.1 hkind
  exact ⟨hb, mem_declaredEnumerations_iff.1 hdeclared, mem_enumerationNames_iff⟩

theorem enumeration_fields_declared_role :
    let text := "model A \x7b\n  role Role\n\x7d\nenum Role \x7b\n  ADMIN\n\x7d\n"
    ∃ m ∈ (Schema.ofText text).models, ∃ f ∈ m.fields, f.kind = .enumeration ∧
      f.baseType ∈ (Schema.ofText text).enumerationNames ∧
      ∃ i, DeclaresEnumeration (lines text.toList) f.baseType i ∧
        IsOuterLine (lines text.toList) i := by
  intro text
  obtain ⟨m, hm, f, hf, hkind, hname⟩ : ∃ m ∈ (Schema.ofText text).models, ∃ f ∈ m.fields,
      f.kind = .enumeration ∧ f.baseType ∈ (Schema.ofText text).enumerationNames := by
    decide +kernel
  obtain ⟨-, -, hiff⟩ := enumeration_fields_declared text m hm f hf hkind
  exact ⟨m, hm, f, hf, hkind, hname, hiff.1 hname⟩

/-- The type of every enumeration field is an enumeration of the schema. -/
def Schema.EnumerationsDeclared (s : Schema) : Prop :=
  ∀ m ∈ s.models, ∀ f ∈ m.fields, f.kind = .enumeration → f.baseType ∈ s.enumerationNames

instance (s : Schema) : Decidable s.EnumerationsDeclared :=
  inferInstanceAs (Decidable (∀ m ∈ s.models, ∀ f ∈ m.fields, _))

/-- A field gets the kind of an enumeration also from a block that is never closed and from a line
inside a model, and neither of them is an enumeration of the schema. -/
theorem not_enumerationsDeclared :
    ¬ (Schema.ofText "model A \x7b\n  role Role\n\x7d\nenum Role \x7b\n").EnumerationsDeclared ∧
      ¬ (Schema.ofText "model A \x7b\n  enum Role\n\x7d\n").EnumerationsDeclared := by
  decide +kernel

end SchemaAtlas

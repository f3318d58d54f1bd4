import SchemaAtlas.Proofs.Schema.EnumerationNames
import SchemaAtlas.Proofs.Schema.Positions

/-!
# The relations of a schema

`Schema.relations` lists every relation field together with its model, in declaration order.  In a
schema that has been read, no two of them stand on the same line (`pairwise_relations_ofLines`), and
the type of none of them is an enumeration (`baseType_notMem_enumerationNames`).
-/

namespace SchemaAtlas

open Text

/-- Every relation field with its model, in declaration order. -/
def Schema.relations (s : Schema) : List (Model × Field) :=
  s.models.flatMap fun m => m.relationFields.map fun f => (m, f)

theorem Schema.mem_relations_iff {s : Schema} {r : Model × Field} :
    r ∈ s.relations ↔ r.1 ∈ s.models ∧ r.2 ∈ r.1.fields ∧ r.2.isRelation := by
  simp only [relations, Model.relationFields, List.mem_flatMap, List.mem_map, List.mem_filter]
  constructor
  · rintro ⟨m, hm, f, hf, rfl⟩
    exact ⟨hm, hf⟩
  · rintro ⟨hm, hf⟩
    exact ⟨r.1, hm, r.2, hf, rfl⟩

/-! ### Lines -/

/-- The fields of a model stand in front of those of the next one. -/
theorem pairwise_fields_models (lines : List Line) :
    (Schema.ofLines lines).models.Pairwise fun m m' =>
      ∀ f ∈ m.fields, ∀ g ∈ m'.fields, f.line < g.line := by
  refine (Schema.pairwise_models lines).imp_of_mem ?_
  intro m m' hm hm' hlt f hf g hg
  have hlast := (Schema.standsIn_of_mem_models hm).field_between f hf
  have hfirst := (Schema.standsIn_of_mem_models hm').field_between g hg
  omega

theorem pairwise_relations_ofLines (lines : List Line) :
    (Schema.ofLines lines).relations.Pairwise fun r r' => r.2.line < r'.2.line := by
  refine List.pairwise_flatMap.2 ⟨fun m hm => ?_, ?_⟩
  · rw [List.pairwise_map]
    exact (Schema.standsIn_of_mem_models hm).fields_increase.filter _
  · refine (pairwise_fields_models lines).imp fun hlt r hr r' hr' => ?_
    obtain ⟨f, hf, rfl⟩ := List.mem_map.1 hr
    obtain ⟨g, hg, rfl⟩ := List.mem_map.1 hr'
    exact hlt f (List.mem_of_mem_filter hf) g (List.mem_of_mem_filter hg)

/-! ### Types -/

/-- An enumeration is never the type of a field that has been read as a relation. -/
theorem baseType_notMem_enumerationNames {lines : List Line} {r : Model × Field}
    (hr : r ∈ (Schema.ofLines lines).relations) :
    r.2.baseType ∉ (Schema.ofLines lines).enumerationNames := by
  obtain ⟨hm, hf, hrelation⟩ := Schema.mem_relations_iff.1 hr
  have hkind : r.2.kind = .relation := eq_of_beq hrelation
  rw [kind_eq_ofType hm hf] at hkind
  obtain ⟨-, hdeclared⟩ := FieldKind.ofType_eq_relation_iff.1 hkind
  exact fun hname => hdeclared (declaredEnumerations_of_mem_enumerationNames hname)

end SchemaAtlas

import SchemaAtlas.Proofs.Lists
import SchemaAtlas.Proofs.Schema.Placement
import SchemaAtlas.Proofs.Text.Trimming

/-!
# The values of an enumeration

A value line of an enumeration that has been read is never blank, so every enumeration of such a
schema has the names of its values (`exists_members_of_mem_enumerations`).
-/

namespace SchemaAtlas

open Text

theorem mem_enumerations_ofLines_iff {lines : List Line} {e : Enumeration} :
    e ∈ (Schema.ofLines lines).enumerations ↔
      ∃ p ∈ placedFrom 1 0 lines, p.header.kind = .enumeration ∧
        Enumeration.ofBlock p.header.name p.block = e := by
  simp only [Schema.enumerations_ofLines, List.mem_filterMap,
    PlacedBlock.enumeration?_declaration_eq_some_iff]

theorem exists_valueName_of_valueLine? {line : Line} {value : String}
    (h : valueLine? line = some value) : ∃ name, valueName value = .ok name := by
  simp only [valueLine?] at h
  split at h
  · cases h
  · obtain rfl := Option.some.inj h
    have hne : trim line ≠ [] := by simp_all
    cases hword : firstWord? (trim line) with
    | some word => exact ⟨.ofList word, by simp [valueName, hword]⟩
    | none =>
      have hblank : ∀ c ∈ trim line, isBlank c := by
        simpa using firstWord?_eq_none_iff.1 hword
      rw [← trim_eq_nil_iff, trim_trim] at hblank
      exact absurd hblank hne

theorem exists_members_of_mem_enumerations {lines : List Line} {e : Enumeration}
    (he : e ∈ (Schema.ofLines lines).enumerations) : ∃ members, e.members = .ok members := by
  obtain ⟨p, -, -, rfl⟩ := mem_enumerations_ofLines_iff.1 he
  refine exists_mapM_eq_ok fun value hvalue => ?_
  obtain ⟨line, -, hline⟩ := List.mem_filterMap.1 (List.mem_of_mem_filter hvalue)
  exact exists_valueName_of_valueLine? hline

end SchemaAtlas

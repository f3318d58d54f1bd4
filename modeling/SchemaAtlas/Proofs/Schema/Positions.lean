import SchemaAtlas.Proofs.Schema.BodyFields
import SchemaAtlas.Proofs.Schema.Placement

/-!
# Line numbers of a schema

Reading records line numbers, and `Model.StandsIn` says what they mean: the model begins and ends
inside the text, its first line is its header, its fields stand between its first and its last line
in increasing order, and each of them is what its own line says.

Main statement: whatever the text, every model stands in its lines, and one model ends before the
next begins (`models_standIn_lines`).
-/

namespace SchemaAtlas

open Text

/-- The line numbers of a model and of its fields agree with the lines. -/
structure Model.StandsIn (lines : List Line) (m : Model) : Prop where
  one_le_line : 1 ≤ m.line
  line_le_endLine : m.line ≤ m.endLine
  endLine_le_length : m.endLine ≤ lines.length
  header : ∃ line, lines[m.line - 1]? = some line ∧ Header.read? line = some ⟨.model, m.name⟩
  fields_increase : m.fields.Pairwise fun f g => f.line < g.line
  field_between : ∀ f ∈ m.fields, m.line < f.line ∧ f.line < m.endLine
  field_read : ∀ f ∈ m.fields, ∃ line, lines[f.line - 1]? = some line ∧
    (Field.read? (declaredEnumerations lines) none f.line line).map Field.withoutComment =
      some f.withoutComment

theorem Field.map_read?_of_ofLine? {enums : List String} {number : Nat} {line : Line} {f : Field}
    (h : Field.ofLine? enums number line = some f) :
    (Field.read? enums none number line).map Field.withoutComment = some f := by
  unfold Field.ofLine? at h
  split at h
  · exact h
  · cases h

/-- The lines on which a field of a placed block can stand. -/
theorem PlacedBlock.StandsIn.field {first : Nat} {lines : List Line} {p : PlacedBlock}
    (hp : p.StandsIn first lines) {enums : List String} {f : Field}
    (hf : f ∈ fieldsFrom enums none (p.number + 1) p.block.body) :
    p.number < f.line ∧ f.line < p.lastNumber ∧ ∃ line, lines[f.line - first]? = some line ∧
      Field.ofLine? enums f.line line = some f.withoutComment := by
  obtain ⟨hle, line, hline, hread⟩ := mem_fieldsFrom hf
  obtain ⟨hj, -⟩ := List.getElem?_eq_some_iff.1 hline
  have hfirst := hp.le_number
  have hlast := hp.lt_lastNumber hj
  have hbody := hp.getElem?_body hj
  rw [show p.number - first + 1 + (f.line - (p.number + 1)) = f.line - first by omega, hline]
    at hbody
  exact ⟨by omega, by omega, line, hbody, hread⟩

theorem PlacedBlock.StandsIn.model {lines : List Line} {p : PlacedBlock} (hp : p.StandsIn 1 lines)
    (hkind : p.header.kind = .model) :
    (Model.ofBlock (declaredEnumerations lines) p.number p.header.name p.block).StandsIn lines where
  one_le_line := hp.le_number
  line_le_endLine := Nat.le_add_right _ _
  endLine_le_length := by
    have hlast := hp.lastNumber_lt
    simp only [PlacedBlock.lastNumber] at hlast
    simp only [Model.ofBlock]
    omega
  header := by
    obtain ⟨line, hline, hheader⟩ := hp.getElem?_number
    exact ⟨line, hline, by rw [hheader, ← hkind]; rfl⟩
  fields_increase := pairwise_fieldsFrom _ _ _ _
  field_between f hf := by
    obtain ⟨hlt, hlast, -⟩ := hp.field hf
    exact ⟨hlt, hlast⟩
  field_read f hf := by
    obtain ⟨-, -, line, hline, hread⟩ := hp.field hf
    exact ⟨line, hline, Field.map_read?_of_ofLine? hread⟩

theorem Schema.standsIn_of_mem_models {lines : List Line} {m : Model}
    (hm : m ∈ (ofLines lines).models) : m.StandsIn lines := by
  obtain ⟨p, hp, hkind, rfl⟩ := mem_models_ofLines_iff.1 hm
  exact (standsIn_of_mem_placedFrom hp).model hkind

theorem Schema.pairwise_models (lines : List Line) :
    (ofLines lines).models.Pairwise fun m m' => m.endLine < m'.line := by
  rw [models_ofLines, List.pairwise_filterMap]
  refine (pairwise_placedFrom 1 0 lines).imp fun hlt m hm m' hm' => ?_
  obtain ⟨-, rfl⟩ := PlacedBlock.model?_declaration_eq_some_iff.1 hm
  obtain ⟨-, rfl⟩ := PlacedBlock.model?_declaration_eq_some_iff.1 hm'
  exact hlt

/-- Whatever the text, models stand where their line numbers say, one after another. -/
theorem models_standIn_lines (text : String) :
    ((Schema.ofText text).models.Pairwise fun m m' => m.endLine < m'.line) ∧
      ∀ m ∈ (Schema.ofText text).models, m.StandsIn (lines text.toList) :=
  ⟨Schema.pairwise_models _, fun _ => Schema.standsIn_of_mem_models⟩

end SchemaAtlas

import SchemaAtlas.Overview.Record
import SchemaAtlas.Proofs.Docs.BundlePages
import SchemaAtlas.Proofs.Docs.RelationEdges
import SchemaAtlas.Proofs.Lint.Reports
import SchemaAtlas.Proofs.Schema.LinePositions
import SchemaAtlas.Types.TypeScript

/-!
# What is made from a schema

An overview, a report, documents and record types are made from a schema (`Schema.Completes`).  If
the patterns of the settings can be read, nothing but a blank value of an enumeration prevents that
(`completes_iff`).

Main statement: reading a text looks up no line that there is not, and all the rest is made from
what has been read (`completes_ofText`).
-/

namespace SchemaAtlas

open Docs Lint Text

/-! ### Edges -/

/-- The edge is that of a relation field and has the field's cardinality. -/
def Edge.IsOfSchema (s : Schema) (e : Edge) : Prop :=
  ∃ m ∈ s.models, ∃ f ∈ m.relationFields,
    e = .ofField m.name f ∧ f.cardinality? = some e.cardinality

section

variable {settings : DocSettings} {s : Schema} {e : Edge}

theorem Edge.isOfSchema_of_mem {m : Model} (hm : m ∈ s.models)
    (he : e ∈ m.relationFields.map (.ofField m.name)) : e.IsOfSchema s := by
  obtain ⟨f, hf, rfl⟩ := List.mem_map.1 he
  exact ⟨m, hm, f, hf, rfl, Field.cardinality?_of_isRelation (List.mem_filter.1 hf).2⟩

theorem Edge.isOfSchema_of_mem_edges (he : e ∈ s.edges) : e.IsOfSchema s := by
  obtain ⟨m, hm, he⟩ := List.mem_flatMap.1 he
  exact isOfSchema_of_mem hm he

/-- The diagram page shows edges of the schema. -/
theorem Edge.isOfSchema_of_pageLine {line : PageLine} (hline : line ∈ diagramPageLines settings s)
    (he : line.drawn? = some e ∨ line.row? = some e) : e.IsOfSchema s := by
  apply isOfSchema_of_mem_edges
  rcases he with he | he
  · have hdrawn : e ∈ (diagramPageLines settings s).filterMap PageLine.drawn? :=
      List.mem_filterMap.2 ⟨line, hline, he⟩
    rw [drawn_diagramPageLines, (drawn_perm settings s).mem_iff] at hdrawn
    exact List.mem_of_mem_filter hdrawn
  · have hlisted : e ∈ (diagramPageLines settings s).filterMap PageLine.row? :=
      List.mem_filterMap.2 ⟨line, hline, he⟩
    rw [row_diagramPageLines, (listed_append_leaving_perm settings s).mem_iff] at hlisted
    exact List.mem_of_mem_filter hlisted

end

/-! ### What fails on a blank value -/

theorem Overview.exists_toData_iff {o : Overview} :
    (∃ data, o.toData = .ok data) ↔
      ∀ e ∈ o.enumerations, ∃ members, e.members = .ok members := by
  have hentry : ∀ e : Enumeration,
      (∃ entry, e.entry = .ok entry) ↔ ∃ members, e.members = .ok members := fun _ =>
    exists_bind_pure_eq_ok_iff
  simp only [← hentry, ← exists_mapM_eq_ok_iff]
  exact exists_bind_pure_eq_ok_iff

theorem TypeBundle.exists_moduleText_iff {settings : TypeSettings} {bundle : TypeBundle} :
    (∃ text, bundle.moduleText settings = .ok text) ↔
      ∀ e ∈ bundle.enumerations, ∃ members, e.members = .ok members := by
  have hlines : ∀ e : Enumeration,
      (∃ ls, e.typeLines = .ok ls) ↔ ∃ members, e.members = .ok members := fun _ =>
    exists_bind_pure_eq_ok_iff
  have htext : (∃ text, bundle.moduleText settings = .ok text) ↔
      ∃ ls, bundle.moduleLines settings = .ok ls := by
    rw [moduleText]
    cases bundle.moduleLines settings <;> simp [Except.map]
  simp only [htext, ← hlines, ← exists_mapM_eq_ok_iff]
  exact exists_bind_pure_eq_ok_iff

/-! ### Everything -/

/-- Everything is made from the schema, and only edges with the cardinality of a relation field are
drawn or listed. -/
structure Schema.Completes (settings : Settings) (s : Schema) : Prop where
  members : ∀ e ∈ s.enumerations, ∃ members, e.members = .ok members
  overview : ∃ data, (Overview.ofSchema s).toData = .ok data
  report : ∃ report, validate settings.lint s = .ok report
  documents : ∀ selection origin, ∃ b, bundle settings.docs selection origin s = .ok b
  types : ∃ text,
    (TypeBundle.ofSchema settings.typegen s).moduleText settings.typegen = .ok text
  diagram_lines : diagramPage settings.docs s =
    joined "\n" ((diagramPageLines settings.docs s).map PageLine.text)
  page_edges : ∀ m ∈ s.models, ∀ e ∈ (entityDiagram settings.docs s m).edges, e.IsOfSchema s
  diagram_edges : ∀ line ∈ diagramPageLines settings.docs s, ∀ e,
    line.drawn? = some e ∨ line.row? = some e → e.IsOfSchema s

theorem completes_iff {settings : Settings} (h : PatternsReadable settings.lint) {s : Schema} :
    s.Completes settings ↔ ∀ e ∈ s.enumerations, ∃ members, e.members = .ok members := by
  refine ⟨Schema.Completes.members, fun hmembers => ?_⟩
  constructor
  · exact hmembers
  · exact Overview.exists_toData_iff.2 hmembers
  · exact exists_report h s
  · exact fun selection origin => exists_bundle_iff.2 hmembers
  · exact TypeBundle.exists_moduleText_iff.2 hmembers
  · exact text_diagramPageLines settings.docs s
  · exact fun m hm e he => Edge.isOfSchema_of_mem hm he
  · exact fun line hline e he => Edge.isOfSchema_of_pageLine hline he

/-- Every text is read without a look-up that fails, and everything is made from the schema that has
been read. -/
theorem completes_ofText {settings : Settings} (h : PatternsReadable settings.lint)
    (text : String) :
    let ls := lines text.toList
    (∃ declarations, declarationsAt (declaredEnumerations ls) ls 0 = .ok declarations ∧
      Schema.ofText text = ⟨declarations.filterMap Declaration.model?,
        declarations.filterMap Declaration.enumeration?⟩) ∧
      (Schema.ofText text).Completes settings := by
  intro ls
  refine ⟨⟨_, declarationsAt_eq _ _ 0, rfl⟩, (completes_iff h).2 fun e he => ?_⟩
  exact exists_members_of_mem_enumerations he

/-- A text with relations, an enumeration and a block that is never closed. -/
theorem completes_unclosed :
    let text := "model User \x7b\n  role Role\n  posts Post[]\n\x7d\n" ++
      "enum Role \x7b\n  ADMIN\n\x7d\nmodel Post \x7b\n  author User?\n\x7d\nmodel Tag \x7b\n"
    PatternsReadable ({} : Settings).lint ∧ (Schema.ofText text).edges.length = 2 ∧
      (Schema.ofText text).Completes {} := by
  intro text
  have hedges : (Schema.ofText text).edges.length = 2 := by decide +kernel
  exact ⟨patternsReadable_default, hedges, (completes_ofText patternsReadable_default text).2⟩

end SchemaAtlas

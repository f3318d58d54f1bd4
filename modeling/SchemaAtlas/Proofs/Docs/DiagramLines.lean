import SchemaAtlas.Docs.DiagramPage
import SchemaAtlas.Proofs.Docs.RowCells

/-!
# Reading the lines of a diagram

The lines of a diagram are written as `entityForm` and `edgeForm` say (`diagramLines_eq`).
`openedEntity?` and `drawnEdge?` read these lines by cutting them at their blanks, and
`listedEdge?` reads the rows of a table of edges by their cells.  Names are written without regard to
what they hold, so a line reads as what it stands for if its names have no blanks and no bars
(`Edge.HasPlainNames`).  Whatever the names are, the line of an attribute is not read as that of an
entity or an edge, and the line that opens an entity is not read as an edge.
-/

namespace SchemaAtlas

open Text

/-- The names of the edge have no blanks and no bars. -/
def Edge.HasPlainNames (e : Edge) : Prop :=
  ∀ name ∈ [e.source, e.fieldName, e.target], ' ' ∉ name.toList ∧ '|' ∉ name.toList

instance : DecidablePred Edge.HasPlainNames := fun _ => inferInstanceAs (Decidable (∀ _ ∈ _, _))

namespace Docs

open Markdown

/-! ### Written forms -/

/-- The lines that declare an entity, one for each attribute between those that open and close it. -/
def entityForm (e : Entity) : List String :=
  ["    " ++ e.name ++ " \x7b"] ++
    e.attributes.map (fun a => "        " ++ a.typeName ++ " " ++ a.name ++
      if a.marker.isEmpty then "" else " " ++ a.marker) ++
    ["    \x7d"]

/-- The line that draws an edge. -/
def edgeForm (e : Edge) : String :=
  "    " ++ e.source ++ " " ++ e.cardinality.connector ++ " " ++ e.target ++ " : \"" ++
    e.fieldName ++ "\""

/-- The lines of a diagram declare its entities and then draw its edges. -/
theorem diagramLines_eq (d : Diagram) :
    d.lines = ["```mermaid", "erDiagram"] ++ d.entities.flatMap entityForm ++
      d.edges.map edgeForm ++ ["```", ""] :=
  rfl

/-! ### Readers -/

/-- The parts of a line between its blanks. -/
def blankParts (line : String) : List String :=
  (cutAt ' ' line.toList).map .ofList

/-- The text between two marks. -/
def enclosed? (mark : Char) (s : String) : Option String :=
  match s.toList with
  | [] => none
  | c :: rest =>
    if c = mark ∧ rest.getLast? = some mark then some (.ofList rest.dropLast) else none

/-- The cardinality that the sign between the ends of an edge shows. -/
def cardinalityOfSign? : String → Option Cardinality
  | "||--o\x7b" => some .oneToMany
  | "\x7do--||" => some .manyToOneOptional
  | "\x7d|--||" => some .manyToOne
  | _ => none

/-- The cardinality that the label in a row shows. -/
def cardinalityOfLabel? : String → Option Cardinality
  | "One-to-Many" => some .oneToMany
  | "Many-to-One (optional)" => some .manyToOneOptional
  | "Many-to-One" => some .manyToOne
  | _ => none

/-- The entity that a line with the given parts opens. -/
def entityOfParts? : List String → Option String
  | ["", "", "", "", name, "\x7b"] => some name
  | _ => none

/-- The edge that a line with the given parts draws. -/
def edgeOfParts? : List String → Option Edge
  | ["", "", "", "", source, sign, target, ":", field] => do
    return ⟨source, ← enclosed? '"' field, target, ← cardinalityOfSign? sign⟩
  | _ => none

/-- The edge in a row with the given cells. -/
def edgeOfCells? : List String → Option Edge
  | [source, field, target, label] => do
    return ⟨← enclosed? '`' source, ← enclosed? '`' field, ← enclosed? '`' target,
      ← cardinalityOfLabel? label⟩
  | _ => none

/-- The name of the entity that a line of a diagram opens. -/
def openedEntity? (line : String) : Option String :=
  entityOfParts? (blankParts line)

/-- The edge that a line of a diagram draws. -/
def drawnEdge? (line : String) : Option Edge :=
  edgeOfParts? (blankParts line)

/-- The edge that a row of a table lists; its first cell is a code span. -/
def listedEdge? (line : String) : Option Edge :=
  if startsWith "| `" line.toList then edgeOfCells? (rowCells line) else none

/-! ### Parts -/

theorem blankParts_joined {parts : List String} (hne : parts ≠ [])
    (h : ∀ part ∈ parts, ' ' ∉ part.toList) : blankParts (joined " " parts) = parts := by
  have hblank : " " = String.singleton ' ' := rfl
  rw [blankParts, hblank, cutAt_toList_joined hne h, List.map_map]
  simp [Function.comp_def]

theorem blankParts_append (front back : String) :
    blankParts (front ++ " " ++ back) = blankParts front ++ blankParts back := by
  rw [blankParts, String.toList_append, String.toList_append]
  show (cutAt ' ' (front.toList ++ [' '] ++ _)).map _ = _
  rw [List.append_assoc, List.singleton_append, cutAt_append_sep, List.map_append]
  rfl

theorem enclosed?_append (mark : Char) (s : String) :
    enclosed? mark (.singleton mark ++ s ++ .singleton mark) = some s := by
  simp [enclosed?]

theorem cardinalityOfSign?_connector (c : Cardinality) :
    cardinalityOfSign? c.connector = some c := by
  cases c <;> rfl

theorem cardinalityOfLabel?_label (c : Cardinality) : cardinalityOfLabel? c.label = some c := by
  cases c <;> rfl

theorem parts_of_edgeOfParts? {parts : List String} {e : Edge} (h : edgeOfParts? parts = some e) :
    ∃ source sign target field, parts = ["", "", "", "", source, sign, target, ":", field] ∧
      cardinalityOfSign? sign = some e.cardinality ∧ enclosed? '"' field = some e.fieldName := by
  unfold edgeOfParts? at h
  split at h
  · rename_i source sign target field
    obtain ⟨name, hname, h⟩ := Option.bind_eq_some_iff.1 h
    obtain ⟨c, hc, h⟩ := Option.bind_eq_some_iff.1 h
    obtain rfl := Option.some.inj h
    exact ⟨source, sign, target, field, rfl, hc, hname⟩
  · cases h

theorem parts_of_entityOfParts? {parts : List String} {name : String}
    (h : entityOfParts? parts = some name) : parts = ["", "", "", "", name, "\x7b"] := by
  unfold entityOfParts? at h
  split at h
  · rw [Option.some.inj h]
  · cases h

theorem drawnEdge?_of_head {line : String} {c : Char} (h : line.toList.head? = some c)
    (hc : c ≠ ' ') : drawnEdge? line = none := by
  obtain ⟨rest, h⟩ := List.head?_eq_some_iff.1 h
  obtain ⟨part, parts, hparts⟩ : ∃ part parts, cutAt ' ' line.toList = (c :: part) :: parts := by
    obtain ⟨part, parts, hrest⟩ := List.exists_cons_of_ne_nil (cutAt_ne_nil ' ' rest)
    exact ⟨part, parts, by rw [h, cutAt, if_neg hc, hrest]⟩
  refine Option.eq_none_iff_forall_ne_some.2 fun e he => ?_
  rw [drawnEdge?, blankParts, hparts] at he
  obtain ⟨_, _, _, _, hedge, -⟩ := parts_of_edgeOfParts? he
  have hempty : String.ofList (c :: part) = "" := (List.cons.inj hedge).1
  simp at hempty

theorem listedEdge?_of_head {line : String} {c : Char} (h : line.toList.head? = some c)
    (hc : c ≠ '|') : listedEdge? line = none := by
  obtain ⟨rest, h⟩ := List.head?_eq_some_iff.1 h
  have hstart : startsWith "| `" line.toList = false := by
    simp [startsWith, h, List.isPrefixOf, Ne.symm hc]
  rw [listedEdge?, hstart]
  rfl

/-! ### Edges -/

section

variable {e : Edge}

theorem edgeLine_eq_joined (e : Edge) :
    e.line = joined " " ["", "", "", "", e.source, e.cardinality.connector, e.target, ":",
      "\"" ++ e.fieldName ++ "\""] := by
  apply String.toList_inj.1
  simp [Edge.line, joined_cons_cons]

theorem blankParts_edgeLine (h : e.HasPlainNames) :
    blankParts e.line = ["", "", "", "", e.source, e.cardinality.connector, e.target, ":",
      "\"" ++ e.fieldName ++ "\""] := by
  obtain ⟨hsource, hfield, htarget, -⟩ : (' ' ∉ e.source.toList ∧ '|' ∉ e.source.toList) ∧
      (' ' ∉ e.fieldName.toList ∧ '|' ∉ e.fieldName.toList) ∧
      (' ' ∉ e.target.toList ∧ '|' ∉ e.target.toList) ∧ True := by
    simpa [Edge.HasPlainNames] using h
  have hsign : ' ' ∉ e.cardinality.connector.toList := by
    cases e.cardinality <;> decide
  rw [edgeLine_eq_joined, blankParts_joined (List.cons_ne_nil _ _)]
  simp [hsource.1, hfield.1, htarget.1, hsign]

/-- The line of an edge with plain names reads as the edge. -/
theorem drawnEdge?_edgeLine (h : e.HasPlainNames) : drawnEdge? e.line = some e := by
  have hfield : enclosed? '"' ("\"" ++ e.fieldName ++ "\"") = some e.fieldName :=
    enclosed?_append '"' e.fieldName
  rw [drawnEdge?, blankParts_edgeLine h, edgeOfParts?, hfield, cardinalityOfSign?_connector]
  rfl

theorem openedEntity?_edgeLine (h : e.HasPlainNames) : openedEntity? e.line = none := by
  refine Option.eq_none_iff_forall_ne_some.2 fun name hname => ?_
  rw [openedEntity?, blankParts_edgeLine h] at hname
  exact absurd (congrArg List.length (parts_of_entityOfParts? hname)) (by simp)

theorem listedEdge?_edgeLine (e : Edge) : listedEdge? e.line = none := by
  have hblank : e.line.toList.head? = some ' ' := by
    simp [Edge.line]
  exact listedEdge?_of_head hblank (by decide)

/-- The row of an edge with plain names reads as the edge. -/
theorem listedEdge?_edgeRow (h : e.HasPlainNames) :
    listedEdge? (rowLine (edgeRow e)) = some e := by
  have hcells : ∀ cell ∈ edgeRow e, IsOneCell cell := by
    have hlabel : '|' ∉ e.cardinality.label.toList := by
      cases e.cardinality <;> decide
    have hnames : ∀ name ∈ [e.source, e.fieldName, e.target], '|' ∉ (code name).toList := by
      intro name hname
      simpa [code] using (h name hname).2
    simp only [List.forall_mem_cons] at hnames
    obtain ⟨hsource, hfield, htarget, -⟩ := hnames
    simp only [edgeRow, List.forall_mem_cons]
    exact ⟨isOneCell_of_notMem hsource, isOneCell_of_notMem hfield, isOneCell_of_notMem htarget,
      isOneCell_of_notMem hlabel, List.forall_mem_nil _⟩
  have hstart : startsWith "| `" (rowLine (edgeRow e)).toList := by
    simp [startsWith, rowLine, edgeRow, joined_cons_cons, code]
  have hrow : rowCells (rowLine (edgeRow e)) = edgeRow e :=
    rowCells_rowLine_eq (List.cons_ne_nil _ _) hcells
  have hcode : ∀ name : String, enclosed? '`' (code name) = some name := enclosed?_append '`'
  rw [listedEdge?, if_pos hstart, hrow, edgeRow, edgeOfCells?, hcode, hcode, hcode,
    cardinalityOfLabel?_label]
  rfl

end

/-- No row of a table draws an edge. -/
theorem drawnEdge?_rowLine (cells : List String) : drawnEdge? (rowLine cells) = none := by
  have hparts : blankParts (rowLine cells) = "|" :: blankParts (joined " | " cells ++ " |") := by
    have hline : rowLine cells = "|" ++ " " ++ (joined " | " cells ++ " |") := by
      apply String.toList_inj.1
      simp [rowLine]
    rw [hline, blankParts_append]
    rfl
  refine Option.eq_none_iff_forall_ne_some.2 fun e he => ?_
  rw [drawnEdge?, hparts] at he
  obtain ⟨_, _, _, _, hedge, -⟩ := parts_of_edgeOfParts? he
  exact absurd (List.cons.inj hedge).1 (by decide)

/-! ### Entities -/

theorem openingLine_eq (name : String) :
    "    " ++ name ++ " \x7b" = "    " ++ name ++ " " ++ "\x7b" := by
  apply String.toList_inj.1
  simp

/-- The line that opens an entity whose name has no blanks reads as its name. -/
theorem openedEntity?_openingLine {name : String} (h : ' ' ∉ name.toList) :
    openedEntity? ("    " ++ name ++ " \x7b") = some name := by
  have hline : "    " ++ name ++ " \x7b" = joined " " ["", "", "", "", name, "\x7b"] := by
    apply String.toList_inj.1
    simp [joined_cons_cons]
  have hparts : ∀ part ∈ ["", "", "", "", name, "\x7b"], ' ' ∉ part.toList := by
    simp [h]
  rw [openedEntity?, hline, blankParts_joined (List.cons_ne_nil _ _) hparts]
  rfl

/-- The last part of an edge ends with a quote. -/
theorem drawnEdge?_openingLine (name : String) :
    drawnEdge? ("    " ++ name ++ " \x7b") = none := by
  have hparts : blankParts ("    " ++ name ++ " \x7b") =
      blankParts ("    " ++ name) ++ ["\x7b"] := by
    rw [openingLine_eq, blankParts_append]
    rfl
  refine Option.eq_none_iff_forall_ne_some.2 fun e he => ?_
  rw [drawnEdge?, hparts] at he
  obtain ⟨source, sign, target, field, hedge, -, hquoted⟩ := parts_of_edgeOfParts? he
  have hlast : "\x7b" = field := by
    simpa using congrArg List.getLast? hedge
  rw [← hlast] at hquoted
  exact absurd hquoted (by simp [enclosed?])

/-- Eight blanks stand in front of an attribute. -/
theorem blankParts_attributeLine (a : EntityAttribute) : ∃ parts,
    blankParts a.line = "" :: "" :: "" :: "" :: "" :: "" :: "" :: "" :: parts := by
  obtain ⟨rest, hrest⟩ : ∃ rest, a.line = "       " ++ " " ++ rest := by
    refine ⟨a.typeName ++ " " ++ a.name ++ (if a.marker.isEmpty then "" else " " ++ a.marker), ?_⟩
    apply String.toList_inj.1
    simp [EntityAttribute.line]
  have hblanks : blankParts "       " = ["", "", "", "", "", "", "", ""] := by decide
  rw [hrest, blankParts_append, hblanks]
  exact ⟨_, rfl⟩

theorem openedEntity?_attributeLine (a : EntityAttribute) : openedEntity? a.line = none := by
  obtain ⟨parts, hparts⟩ := blankParts_attributeLine a
  refine Option.eq_none_iff_forall_ne_some.2 fun name hname => ?_
  rw [openedEntity?, hparts] at hname
  have hbrace := parts_of_entityOfParts? hname
  simp at hbrace

theorem drawnEdge?_attributeLine (a : EntityAttribute) : drawnEdge? a.line = none := by
  obtain ⟨parts, hparts⟩ := blankParts_attributeLine a
  refine Option.eq_none_iff_forall_ne_some.2 fun e he => ?_
  rw [drawnEdge?, hparts] at he
  obtain ⟨source, sign, target, field, hedge, hsign, -⟩ := parts_of_edgeOfParts? he
  have hempty : "" = sign := by
    simp only [List.cons.injEq] at hedge
    exact hedge.2.2.2.2.2.1
  rw [← hempty] at hsign
  cases hsign

/-- No line of an entity draws or lists an edge. -/
theorem drawnEdge?_of_mem_entityLines {e : Entity} {line : String} (h : line ∈ e.lines) :
    drawnEdge? line = none ∧ listedEdge? line = none := by
  have hlisted : line.toList.head? = some ' ' → listedEdge? line = none :=
    fun hblank => listedEdge?_of_head hblank (by decide)
  simp only [Entity.lines, List.mem_append, List.mem_map, List.mem_singleton] at h
  obtain (rfl | ⟨a, -, rfl⟩) | rfl := h
  · exact ⟨drawnEdge?_openingLine e.name, hlisted (by simp)⟩
  · exact ⟨drawnEdge?_attributeLine a, hlisted (by simp [EntityAttribute.line])⟩
  · decide

/-- Of the lines of an entity, the first opens it and no other opens one. -/
theorem filterMap_openedEntity?_entityLines {e : Entity} (h : ' ' ∉ e.name.toList) :
    e.lines.filterMap openedEntity? = [e.name] := by
  have hattributes : (e.attributes.map EntityAttribute.line).filterMap openedEntity? = [] := by
    rw [List.filterMap_eq_nil_iff]
    intro line hline
    obtain ⟨a, -, rfl⟩ := List.mem_map.1 hline
    exact openedEntity?_attributeLine a
  have hclosing : ["    \x7d"].filterMap openedEntity? = [] := by decide
  rw [Entity.lines, List.filterMap_append, List.filterMap_append, hattributes, hclosing,
    List.filterMap_cons, openedEntity?_openingLine h]
  rfl

/-! ### Diagrams -/

/-- The lines of a diagram open its entities and draw its edges, in order. -/
theorem filterMap_diagramLines {d : Diagram} (hnames : ∀ e ∈ d.entities, ' ' ∉ e.name.toList)
    (hedges : ∀ e ∈ d.edges, e.HasPlainNames) :
    d.lines.filterMap openedEntity? = d.entities.map Entity.name ∧
      d.lines.filterMap drawnEdge? = d.edges := by
  have hopened : (d.entities.flatMap Entity.lines).filterMap openedEntity? =
      d.entities.map Entity.name := by
    rw [List.filterMap_flatMap, ← List.flatMap_pure_eq_map]
    exact List.flatMap_congr fun e he => filterMap_openedEntity?_entityLines (hnames e he)
  have hopening : (d.edges.map Edge.line).filterMap openedEntity? = [] := by
    rw [List.filterMap_eq_nil_iff]
    intro line hline
    obtain ⟨e, he, rfl⟩ := List.mem_map.1 hline
    exact openedEntity?_edgeLine (hedges e he)
  have hblocks : (d.entities.flatMap Entity.lines).filterMap drawnEdge? = [] := by
    rw [List.filterMap_eq_nil_iff]
    intro line hline
    obtain ⟨e, -, hline⟩ := List.mem_flatMap.1 hline
    exact (drawnEdge?_of_mem_entityLines hline).1
  have hdrawn : (d.edges.map Edge.line).filterMap drawnEdge? = d.edges := by
    have hread : ∀ e ∈ d.edges, (drawnEdge? ∘ Edge.line) e = some e := by
      intro e he
      rw [Function.comp_apply]
      exact drawnEdge?_edgeLine (hedges e he)
    rw [List.filterMap_map, List.filterMap_congr hread, List.filterMap_some]
  have hfences : ∀ line ∈ ["```mermaid", "erDiagram", "```", ""],
      openedEntity? line = none ∧ drawnEdge? line = none := by
    decide
  simp only [List.forall_mem_cons] at hfences
  obtain ⟨hfence, hkind, hend, hempty, -⟩ := hfences
  rw [Diagram.lines]
  simp only [List.filterMap_append, hopened, hopening, hblocks, hdrawn, List.filterMap_cons,
    List.filterMap_nil, hfence, hkind, hend, hempty, List.nil_append, List.append_nil, and_self]

end Docs

end SchemaAtlas

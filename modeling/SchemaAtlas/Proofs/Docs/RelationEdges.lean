import Mathlib.Data.List.Perm.Basic
import SchemaAtlas.Proofs.Docs.DiagramLines
import SchemaAtlas.Proofs.Overview.CategoryGroups
import SchemaAtlas.Proofs.Schema.FieldTexts

/-!
# The relations on the diagram page

The diagram page is made of lines, `diagramPageLines`, of which some draw an edge in a diagram and
some list one in a table.  An edge is drawn (`IsDrawn`) if it leads to a model of the category of
its source and that category is small enough.

Main statement: the edges that the page draws are those of the schema that are drawn, and the edges
that it lists are all others, each as often as the schema has it.  If the names are plain, as all names
are that are read from a text (`hasPlainNames_ofText`), a reader finds these edges on the page and no
others (`diagramPage_edges`).
-/

namespace SchemaAtlas.Docs

open Text Markdown

/-! ### The lines of the page -/

/-- A line of the page: one that stands for an edge, in a diagram or in a table, or any other. -/
inductive PageLine where
  | other (line : String)
  | drawn (e : Edge)
  | row (e : Edge)

namespace PageLine

/-- The line as it is written. -/
def text : PageLine → String
  | other line => line
  | drawn e => edgeForm e
  | row e =>
    "| `" ++ e.source ++ "` | `" ++ e.fieldName ++ "` | `" ++ e.target ++ "` | " ++
      e.cardinality.label ++ " |"

/-- The edge that the line draws in a diagram. -/
def drawn? : PageLine → Option Edge
  | drawn e => some e
  | _ => none

/-- The edge that the line lists in a table. -/
def row? : PageLine → Option Edge
  | row e => some e
  | _ => none

theorem text_row (e : Edge) : (row e).text = rowLine (edgeRow e) := by
  apply String.toList_inj.1
  simp [text, rowLine, edgeRow, joined_cons_cons, code]

@[simp]
theorem map_text_other (ls : List String) : (ls.map other).map text = ls := by
  simp [text, Function.comp_def]

@[simp]
theorem map_text_drawn (edges : List Edge) : (edges.map drawn).map text = edges.map Edge.line :=
  List.map_map

@[simp]
theorem map_text_row (edges : List Edge) :
    (edges.map row).map text = edges.map fun e => rowLine (edgeRow e) := by
  rw [List.map_map]
  exact List.map_congr_left fun e _ => text_row e

@[simp]
theorem filterMap_drawn?_other (ls : List String) : (ls.map other).filterMap drawn? = [] := by
  simp [drawn?]

@[simp]
theorem filterMap_drawn?_drawn (edges : List Edge) :
    (edges.map drawn).filterMap drawn? = edges := by
  simp [drawn?, Function.comp_def]

@[simp]
theorem filterMap_drawn?_row (edges : List Edge) : (edges.map row).filterMap drawn? = [] := by
  simp [drawn?]

@[simp]
theorem filterMap_row?_other (ls : List String) : (ls.map other).filterMap row? = [] := by
  simp [row?]

@[simp]
theorem filterMap_row?_drawn (edges : List Edge) : (edges.map drawn).filterMap row? = [] := by
  simp [row?]

@[simp]
theorem filterMap_row?_row (edges : List Edge) : (edges.map row).filterMap row? = edges := by
  simp [row?, Function.comp_def]

end PageLine

/-- The lines of a diagram. -/
def diagramLines (d : Diagram) : List PageLine :=
  (["```mermaid", "erDiagram"] ++ d.entities.flatMap Entity.lines).map .other ++
    d.edges.map .drawn ++ ["```", ""].map .other

/-- The lines of a table of edges and an empty line; none without edges. -/
def edgeTableLines (edges : List Edge) : List PageLine :=
  if edges.isEmpty then []
  else
    let header := (edgeTable edges).header
    [rowLine header, ruleLine header].map .other ++ edges.map .row ++ [""].map .other

/-- The lines for one category. -/
def DiagramSection.pageLines (settings : DocSettings) (part : DiagramSection) : List PageLine :=
  ["## " ++ categoryTitle part.group.category, ""].map .other ++
    if part.isDrawn settings then diagramLines (part.diagram settings)
    -- A listing begins with four lines about the models, and then comes the table.
    else (part.listing.take 4).map .other ++ edgeTableLines part.inside

/-- The lines for the edges that leave their category. -/
def leavingPageLines (edges : List Edge) : List PageLine :=
  if edges.isEmpty then []
  else ["## Cross-Category Relations", ""].map .other ++ edgeTableLines edges

/-- The lines of the diagram page. -/
def diagramPageLines (settings : DocSettings) (s : Schema) : List PageLine :=
  ["# ERD Overview", "", "> High-level entity relationship diagram by category", ""].map .other ++
    (diagramSections s).flatMap (DiagramSection.pageLines settings) ++
    leavingPageLines ((diagramSections s).flatMap DiagramSection.leaving)

/-! ### The page is made of these lines -/

theorem text_diagramLines (d : Diagram) : (diagramLines d).map PageLine.text = d.lines := by
  simp only [diagramLines, List.map_append, PageLine.map_text_other, PageLine.map_text_drawn]
  rfl

theorem text_edgeTableLines (edges : List Edge) :
    (edgeTableLines edges).map PageLine.text =
      if edges.isEmpty then [] else (edgeTable edges).lines ++ [""] := by
  unfold edgeTableLines
  split
  · rfl
  · rw [List.map_append, List.map_append, PageLine.map_text_other, PageLine.map_text_row,
      PageLine.map_text_other, Table.lines, edgeTable, List.map_map]
    rfl

theorem DiagramSection.text_pageLines (settings : DocSettings) (part : DiagramSection) :
    (part.pageLines settings).map PageLine.text = part.lines settings := by
  have hlisting : part.listing = part.listing.take 4 ++
      if part.inside.isEmpty then [] else (edgeTable part.inside).lines ++ [""] := rfl
  unfold DiagramSection.pageLines DiagramSection.lines
  rw [List.map_append, PageLine.map_text_other]
  split
  · rw [text_diagramLines]
  · rw [List.map_append, PageLine.map_text_other, text_edgeTableLines, ← hlisting]

theorem text_leavingPageLines (edges : List Edge) :
    (leavingPageLines edges).map PageLine.text = leavingLines edges := by
  unfold leavingPageLines leavingLines
  split
  · rfl
  · rw [List.map_append, PageLine.map_text_other, text_edgeTableLines, if_neg ‹_›,
      List.append_assoc]

theorem text_diagramPageLines (settings : DocSettings) (s : Schema) :
    diagramPage settings s = joined "\n" ((diagramPageLines settings s).map PageLine.text) := by
  simp only [diagramPage, diagramPageLines, List.map_append, List.map_flatMap,
    PageLine.map_text_other, DiagramSection.text_pageLines, text_leavingPageLines]

/-! ### The edges of the lines -/

/-- The edges that are drawn for a category. -/
def DiagramSection.drawn (settings : DocSettings) (part : DiagramSection) : List Edge :=
  if part.isDrawn settings then part.inside else []

/-- The edges that are listed in a table for a category. -/
def DiagramSection.listed (settings : DocSettings) (part : DiagramSection) : List Edge :=
  if part.isDrawn settings then [] else part.inside

theorem drawn_edgeTableLines (edges : List Edge) :
    (edgeTableLines edges).filterMap PageLine.drawn? = [] := by
  unfold edgeTableLines
  split <;> simp only [List.filterMap_append, PageLine.filterMap_drawn?_other,
    PageLine.filterMap_drawn?_row, List.append_nil, List.filterMap_nil]

theorem row_edgeTableLines (edges : List Edge) :
    (edgeTableLines edges).filterMap PageLine.row? = edges := by
  unfold edgeTableLines
  split
  · simp_all
  · simp only [List.filterMap_append, PageLine.filterMap_row?_other, PageLine.filterMap_row?_row,
      List.append_nil, List.nil_append]

theorem drawn_diagramLines (d : Diagram) :
    (diagramLines d).filterMap PageLine.drawn? = d.edges := by
  simp only [diagramLines, List.filterMap_append, PageLine.filterMap_drawn?_other,
    PageLine.filterMap_drawn?_drawn, List.append_nil, List.nil_append]

theorem row_diagramLines (d : Diagram) : (diagramLines d).filterMap PageLine.row? = [] := by
  simp only [diagramLines, List.filterMap_append, PageLine.filterMap_row?_other,
    PageLine.filterMap_row?_drawn, List.append_nil]

theorem DiagramSection.drawn_pageLines (settings : DocSettings) (part : DiagramSection) :
    (part.pageLines settings).filterMap PageLine.drawn? = part.drawn settings := by
  unfold DiagramSection.pageLines DiagramSection.drawn
  rw [List.filterMap_append, PageLine.filterMap_drawn?_other, List.nil_append]
  split
  · exact drawn_diagramLines _
  · rw [List.filterMap_append, PageLine.filterMap_drawn?_other, drawn_edgeTableLines,
      List.append_nil]

theorem DiagramSection.row_pageLines (settings : DocSettings) (part : DiagramSection) :
    (part.pageLines settings).filterMap PageLine.row? = part.listed settings := by
  unfold DiagramSection.pageLines DiagramSection.listed
  rw [List.filterMap_append, PageLine.filterMap_row?_other, List.nil_append]
  split
  · exact row_diagramLines _
  · rw [List.filterMap_append, PageLine.filterMap_row?_other, row_edgeTableLines,
      List.nil_append]

theorem drawn_leavingPageLines (edges : List Edge) :
    (leavingPageLines edges).filterMap PageLine.drawn? = [] := by
  unfold leavingPageLines
  split
  · rfl
  · rw [List.filterMap_append, PageLine.filterMap_drawn?_other, drawn_edgeTableLines,
      List.append_nil]

theorem row_leavingPageLines (edges : List Edge) :
    (leavingPageLines edges).filterMap PageLine.row? = edges := by
  unfold leavingPageLines
  split
  · simp_all
  · rw [List.filterMap_append, PageLine.filterMap_row?_other, row_edgeTableLines,
      List.nil_append]

theorem drawn_diagramPageLines (settings : DocSettings) (s : Schema) :
    (diagramPageLines settings s).filterMap PageLine.drawn? =
      (diagramSections s).flatMap (DiagramSection.drawn settings) := by
  simp only [diagramPageLines, List.filterMap_append, List.filterMap_flatMap,
    PageLine.filterMap_drawn?_other, DiagramSection.drawn_pageLines, drawn_leavingPageLines,
    List.append_nil, List.nil_append]

theorem row_diagramPageLines (settings : DocSettings) (s : Schema) :
    (diagramPageLines settings s).filterMap PageLine.row? =
      (diagramSections s).flatMap (DiagramSection.listed settings) ++
        (diagramSections s).flatMap DiagramSection.leaving := by
  simp only [diagramPageLines, List.filterMap_append, List.filterMap_flatMap,
    PageLine.filterMap_row?_other, DiagramSection.row_pageLines, row_leavingPageLines,
    List.nil_append]

/-! ### The edges of one category -/

/-- The category of the model that the edge comes from. -/
def sourceCategory (e : Edge) : Category :=
  Category.ofName e.source

/-- The edge leads to a model of the category of its source. -/
def StaysInside (s : Schema) (e : Edge) : Prop :=
  ∃ m ∈ s.models, m.name = e.target ∧ m.category = sourceCategory e

/-- The edge leads to a model of the category of its source, and that category is not too large. -/
def IsDrawn (settings : DocSettings) (s : Schema) (e : Edge) : Prop :=
  StaysInside s e ∧
    (s.models.filter fun m => m.category = sourceCategory e).length ≤ settings.erdMaxModels.val

instance (s : Schema) (e : Edge) : Decidable (StaysInside s e) :=
  inferInstanceAs (Decidable (∃ m ∈ s.models, _))

instance (settings : DocSettings) (s : Schema) (e : Edge) : Decidable (IsDrawn settings s e) :=
  inferInstanceAs (Decidable (_ ∧ _ ≤ _))

/-- The part of the page for one category, whether or not it has models. -/
def sectionOf (s : Schema) (c : Category) : DiagramSection :=
  .of s.edges ⟨c, inTextOrder Model.name (s.models.filter fun m => m.category = c)⟩

theorem flatMap_diagramSections {α : Type} {collect : DiagramSection → List α} {s : Schema}
    (hempty : ∀ c, collect ⟨⟨c, []⟩, [], []⟩ = []) :
    (diagramSections s).flatMap collect =
      Category.inLabelOrder.flatMap fun c => collect (sectionOf s c) := by
  let collectGroup := fun g : CategoryGroup Model =>
    collect (.of s.edges ⟨g.category, inTextOrder Model.name g.members⟩)
  have hnone : ∀ c, collectGroup ⟨c, []⟩ = [] := by
    intro c
    have hof : DiagramSection.of s.edges ⟨c, inTextOrder Model.name []⟩ = ⟨⟨c, []⟩, [], []⟩ := by
      simp [DiagramSection.of, inTextOrder]
    exact (congrArg collect hof).trans (hempty c)
  have hgroups : (diagramSections s).flatMap collect =
      (groupsBy Model.category s.models).flatMap collectGroup := by
    simp only [diagramSections, modelGroups, byCategory, List.map_map, List.flatMap_map,
      Function.comp_def, collectGroup]
  rw [hgroups, flatMap_groupsBy hnone]
  rfl

section

variable {settings : DocSettings} {s : Schema} {c : Category}

theorem exists_model_of_mem_edges {e : Edge} (he : e ∈ s.edges) :
    ∃ m ∈ s.models, m.name = e.source := by
  obtain ⟨m, hm, he⟩ := List.mem_flatMap.1 he
  obtain ⟨f, -, rfl⟩ := List.mem_map.1 he
  exact ⟨m, hm, rfl⟩

theorem perm_members_sectionOf :
    (sectionOf s c).group.members.Perm (s.models.filter fun m => m.category = c) :=
  List.mergeSort_perm _ _

theorem mem_members_sectionOf {m : Model} :
    m ∈ (sectionOf s c).group.members ↔ m ∈ s.models ∧ m.category = c := by
  rw [perm_members_sectionOf.mem_iff, List.mem_filter, decide_eq_true_iff]

theorem contains_names_sectionOf {name : String} :
    ((sectionOf s c).group.members.map Model.name).contains name ↔
      ∃ m ∈ s.models, m.name = name ∧ m.category = c := by
  simp only [List.contains_iff_mem, List.mem_map, mem_members_sectionOf]
  constructor
  · rintro ⟨m, ⟨hm, hc⟩, hname⟩
    exact ⟨m, hm, hname, hc⟩
  · rintro ⟨m, hm, hname, hc⟩
    exact ⟨m, ⟨hm, hc⟩, hname⟩

/-- The edges from a category are told by the names of their sources. -/
theorem filter_source_sectionOf :
    (s.edges.filter fun e => ((sectionOf s c).group.members.map Model.name).contains e.source) =
      s.edges.filter fun e => sourceCategory e = c := by
  refine List.filter_congr fun e he => ?_
  obtain ⟨source, hsource, hname⟩ := exists_model_of_mem_edges he
  rw [Bool.eq_iff_iff, contains_names_sectionOf, decide_eq_true_iff, sourceCategory]
  constructor
  · rintro ⟨m, -, hm, rfl⟩
    rw [← hm, Model.category]
  · rintro rfl
    exact ⟨source, hsource, hname, by rw [← hname, Model.category]⟩

theorem contains_target_sectionOf {e : Edge} (hc : sourceCategory e = c) :
    ((sectionOf s c).group.members.map Model.name).contains e.target =
      decide (StaysInside s e) := by
  rw [Bool.eq_iff_iff, contains_names_sectionOf, decide_eq_true_iff, StaysInside, hc]

theorem inside_sectionOf :
    (sectionOf s c).inside =
      (s.edges.filter fun e => sourceCategory e = c).filter fun e => StaysInside s e := by
  calc (sectionOf s c).inside
    _ = (s.edges.filter fun e => sourceCategory e = c).filter fun e =>
          ((sectionOf s c).group.members.map Model.name).contains e.target :=
        congrArg (List.filter _) filter_source_sectionOf
    _ = _ := List.filter_congr fun e he =>
        contains_target_sectionOf (of_decide_eq_true (List.mem_filter.1 he).2)

theorem leaving_sectionOf :
    (sectionOf s c).leaving =
      (s.edges.filter fun e => sourceCategory e = c).filter fun e => !decide (StaysInside s e) := by
  calc (sectionOf s c).leaving
    _ = (s.edges.filter fun e => sourceCategory e = c).filter fun e =>
          !((sectionOf s c).group.members.map Model.name).contains e.target :=
        congrArg (List.filter _) filter_source_sectionOf
    _ = _ := List.filter_congr fun e he => congrArg (!·)
        (contains_target_sectionOf (of_decide_eq_true (List.mem_filter.1 he).2))

theorem isDrawn_sectionOf :
    (sectionOf s c).isDrawn settings ↔
      (s.models.filter fun m => m.category = c).length ≤ settings.erdMaxModels.val := by
  rw [DiagramSection.isDrawn, decide_eq_true_iff, perm_members_sectionOf.length_eq]

/-- For a category that is drawn it depends on its target alone whether an edge is. -/
theorem isDrawn_iff_staysInside (hdrawn : (sectionOf s c).isDrawn settings) {e : Edge}
    (hc : sourceCategory e = c) : IsDrawn settings s e ↔ StaysInside s e := by
  rw [isDrawn_sectionOf] at hdrawn
  rw [IsDrawn, hc]
  exact and_iff_left hdrawn

theorem not_isDrawn (hdrawn : ¬ (sectionOf s c).isDrawn settings) {e : Edge}
    (hc : sourceCategory e = c) : ¬ IsDrawn settings s e := by
  rw [isDrawn_sectionOf] at hdrawn
  rw [IsDrawn, hc]
  exact fun h => hdrawn h.2

theorem drawn_sectionOf :
    (sectionOf s c).drawn settings =
      (s.edges.filter fun e => IsDrawn settings s e).filter fun e => sourceCategory e = c := by
  rw [DiagramSection.drawn, List.filter_comm]
  split
  · rw [inside_sectionOf]
    refine List.filter_congr fun e he => ?_
    have hc := of_decide_eq_true (List.mem_filter.1 he).2
    rw [decide_eq_decide, isDrawn_iff_staysInside ‹_› hc]
  · refine (List.filter_eq_nil_iff.2 fun e he => ?_).symm
    have hc := of_decide_eq_true (List.mem_filter.1 he).2
    rw [decide_eq_true_iff]
    exact not_isDrawn ‹_› hc

theorem listed_append_leaving_sectionOf :
    ((sectionOf s c).listed settings ++ (sectionOf s c).leaving).Perm
      ((s.edges.filter fun e => ¬ IsDrawn settings s e).filter fun e => sourceCategory e = c) := by
  rw [DiagramSection.listed, List.filter_comm]
  split
  · rw [leaving_sectionOf, List.nil_append]
    refine .of_eq (List.filter_congr fun e he => ?_)
    have hc := of_decide_eq_true (List.mem_filter.1 he).2
    rw [← decide_not, decide_eq_decide, isDrawn_iff_staysInside ‹_› hc]
  · have hall : ∀ e ∈ s.edges.filter fun e => sourceCategory e = c,
        decide (¬ IsDrawn settings s e) = true := fun e he =>
      decide_eq_true (not_isDrawn ‹_› (of_decide_eq_true (List.mem_filter.1 he).2))
    rw [inside_sectionOf, leaving_sectionOf, List.filter_eq_self.2 hall]
    exact List.filter_append_perm _ _

end

/-! ### All edges -/

theorem drawn_perm (settings : DocSettings) (s : Schema) :
    ((diagramSections s).flatMap (DiagramSection.drawn settings)).Perm
      (s.edges.filter fun e => IsDrawn settings s e) := by
  have hempty : ∀ c, DiagramSection.drawn settings ⟨⟨c, []⟩, [], []⟩ = [] := by
    simp [DiagramSection.drawn]
  rw [flatMap_diagramSections hempty]
  simp only [drawn_sectionOf]
  exact flatMap_inLabelOrder_perm sourceCategory _

theorem listed_append_leaving_perm (settings : DocSettings) (s : Schema) :
    ((diagramSections s).flatMap (DiagramSection.listed settings) ++
      (diagramSections s).flatMap DiagramSection.leaving).Perm
        (s.edges.filter fun e => ¬ IsDrawn settings s e) := by
  have hlisted : ∀ c, DiagramSection.listed settings ⟨⟨c, []⟩, [], []⟩ = [] := by
    simp [DiagramSection.listed]
  rw [flatMap_diagramSections hlisted, flatMap_diagramSections fun _ => rfl]
  refine (List.flatMap_append_perm _ _ _).trans ?_
  refine (List.Perm.flatMap_left _ fun c _ => listed_append_leaving_sectionOf).trans ?_
  exact flatMap_inLabelOrder_perm sourceCategory _

/-! ### Reading the page -/

/-- A reader takes the line for the edge that it draws or lists, if any. -/
def PageLine.ReadsBack (l : PageLine) : Prop :=
  drawnEdge? l.text = l.drawn? ∧ listedEdge? l.text = l.row?

instance : DecidablePred PageLine.ReadsBack := fun _ => inferInstanceAs (Decidable (_ ∧ _))

/-- A line that begins neither with a blank nor with a bar stands for no edge. -/
theorem PageLine.readsBack_of_head {line : String} (c : Char) (h : line.toList.head? = some c)
    (hblank : c ≠ ' ') (hbar : c ≠ '|') : (PageLine.other line).ReadsBack :=
  ⟨drawnEdge?_of_head h hblank, listedEdge?_of_head h hbar⟩

theorem PageLine.readsBack_empty : (PageLine.other "").ReadsBack := by
  decide

theorem PageLine.readsBack_drawn {e : Edge} (h : e.HasPlainNames) :
    (PageLine.drawn e).ReadsBack :=
  ⟨drawnEdge?_edgeLine h, listedEdge?_edgeLine e⟩

theorem PageLine.readsBack_row {e : Edge} (h : e.HasPlainNames) : (PageLine.row e).ReadsBack := by
  rw [ReadsBack, text_row]
  exact ⟨drawnEdge?_rowLine _, listedEdge?_edgeRow h⟩

theorem readsBack_diagramLines {d : Diagram} (h : ∀ e ∈ d.edges, e.HasPlainNames) :
    ∀ l ∈ diagramLines d, l.ReadsBack := by
  have hfences : ∀ line ∈ ["```mermaid", "erDiagram", "```", ""],
      (PageLine.other line).ReadsBack := by
    decide
  intro l hl
  simp only [diagramLines, List.map_append, List.mem_append, List.mem_map] at hl
  obtain ((⟨line, hline, rfl⟩ | ⟨line, hline, rfl⟩) | ⟨e, he, rfl⟩) | ⟨line, hline, rfl⟩ := hl
  · exact hfences line (List.mem_append_left ["```", ""] hline)
  · obtain ⟨entity, -, hline⟩ := List.mem_flatMap.1 hline
    exact drawnEdge?_of_mem_entityLines hline
  · exact PageLine.readsBack_drawn (h e he)
  · exact hfences line (List.mem_append_right ["```mermaid", "erDiagram"] hline)

theorem readsBack_edgeTableLines {edges : List Edge} (h : ∀ e ∈ edges, e.HasPlainNames) :
    ∀ l ∈ edgeTableLines edges, l.ReadsBack := by
  have hheader : ∀ line ∈ [rowLine (edgeTable edges).header, ruleLine (edgeTable edges).header],
      (PageLine.other line).ReadsBack := by
    show ∀ line ∈ [rowLine ["From", "Field", "To", "Cardinality"],
      ruleLine ["From", "Field", "To", "Cardinality"]], _
    decide
  intro l hl
  unfold edgeTableLines at hl
  split at hl
  · cases hl
  · simp only [List.mem_append, List.mem_map] at hl
    obtain (⟨line, hline, rfl⟩ | ⟨e, he, rfl⟩) | ⟨line, hline, rfl⟩ := hl
    · exact hheader line hline
    · exact PageLine.readsBack_row (h e he)
    · obtain rfl := List.mem_singleton.1 hline
      exact PageLine.readsBack_empty

theorem DiagramSection.readsBack_pageLines (settings : DocSettings) {part : DiagramSection}
    (h : ∀ e ∈ part.inside, e.HasPlainNames) : ∀ l ∈ part.pageLines settings, l.ReadsBack := by
  intro l hl
  unfold DiagramSection.pageLines at hl
  rw [List.mem_append, List.map_cons, List.map_singleton, List.mem_cons, List.mem_singleton] at hl
  rcases hl with (rfl | rfl) | hl
  · exact PageLine.readsBack_of_head '#' (by simp) (by decide) (by decide)
  · exact PageLine.readsBack_empty
  · split at hl
    · exact readsBack_diagramLines h l hl
    · rcases List.mem_append.1 hl with hl | hl
      · simp only [listing, List.cons_append, List.nil_append, List.take_succ_cons, List.take_zero,
          List.map_cons, List.map_nil, List.mem_cons, List.not_mem_nil, or_false] at hl
        obtain rfl | rfl | rfl | rfl := hl
        · exact PageLine.readsBack_of_head '>' (by simp) (by decide) (by decide)
        · exact PageLine.readsBack_empty
        · exact PageLine.readsBack_of_head 'M' (by simp) (by decide) (by decide)
        · exact PageLine.readsBack_empty
      · exact readsBack_edgeTableLines h l hl

theorem readsBack_diagramPageLines (settings : DocSettings) {s : Schema}
    (h : ∀ e ∈ s.edges, e.HasPlainNames) : ∀ l ∈ diagramPageLines settings s, l.ReadsBack := by
  have hparts : ∀ part ∈ diagramSections s, (∀ e ∈ part.inside, e.HasPlainNames) ∧
      ∀ e ∈ part.leaving, e.HasPlainNames := by
    intro part hpart
    obtain ⟨group, -, rfl⟩ := List.mem_map.1 hpart
    exact ⟨fun e he => h e (List.mem_of_mem_filter (List.mem_of_mem_filter he)),
      fun e he => h e (List.mem_of_mem_filter (List.mem_of_mem_filter he))⟩
  have hopening : ∀ line ∈ ["# ERD Overview", "",
      "> High-level entity relationship diagram by category", ""],
      (PageLine.other line).ReadsBack := by
    decide
  intro l hl
  unfold diagramPageLines at hl
  rcases List.mem_append.1 hl with hl | hl
  · rcases List.mem_append.1 hl with hl | hl
    · obtain ⟨line, hline, rfl⟩ := List.mem_map.1 hl
      exact hopening line hline
    · obtain ⟨part, hpart, hl⟩ := List.mem_flatMap.1 hl
      exact DiagramSection.readsBack_pageLines settings (hparts part hpart).1 l hl
  · have hleaving : ∀ e ∈ (diagramSections s).flatMap DiagramSection.leaving, e.HasPlainNames := by
      intro e he
      obtain ⟨part, hpart, he⟩ := List.mem_flatMap.1 he
      exact (hparts part hpart).2 e he
    have hheading : ∀ line ∈ ["## Cross-Category Relations", ""],
        (PageLine.other line).ReadsBack := by
      decide
    unfold leavingPageLines at hl
    split at hl
    · cases hl
    · rcases List.mem_append.1 hl with hl | hl
      · obtain ⟨line, hline, rfl⟩ := List.mem_map.1 hl
        exact hheading line hline
      · exact readsBack_edgeTableLines hleaving l hl

/-- Names that are read from a text are words. -/
theorem hasPlainNames_ofText (text : String) :
    ∀ e ∈ (Schema.ofText text).edges, e.HasPlainNames := by
  have hplain : ∀ name : String, IsWordText name → ' ' ∉ name.toList ∧ '|' ∉ name.toList :=
    fun name h => ⟨h.notMem (by decide), h.notMem (by decide)⟩
  intro e he
  obtain ⟨m, hm, he⟩ := List.mem_flatMap.1 he
  obtain ⟨f, hf, rfl⟩ := List.mem_map.1 he
  obtain ⟨hname, hfields⟩ := isTakenFrom_of_mem_models hm
  have hfield := hfields f (List.mem_of_mem_filter hf)
  unfold Edge.HasPlainNames
  simp only [List.forall_mem_cons]
  exact ⟨hplain _ hname, hplain _ hfield.name, hplain _ hfield.baseType, List.forall_mem_nil _⟩

/-- Every relation of a schema is on its diagram page once: as an edge of a diagram if it leads to a
model of its own category and that category is small enough, and else as a row of a table.  If the
names have no blanks and no bars, these edges are what a reader finds in the lines of the page. -/
theorem diagramPage_edges (settings : DocSettings) (s : Schema) :
    diagramPage settings s = joined "\n" ((diagramPageLines settings s).map PageLine.text) ∧
      ((diagramPageLines settings s).filterMap PageLine.drawn?).Perm
        (s.edges.filter fun e => IsDrawn settings s e) ∧
      ((diagramPageLines settings s).filterMap PageLine.row?).Perm
        (s.edges.filter fun e => ¬ IsDrawn settings s e) ∧
      ((∀ e ∈ s.edges, e.HasPlainNames) →
        (((diagramPageLines settings s).map PageLine.text).filterMap drawnEdge?).Perm
          (s.edges.filter fun e => IsDrawn settings s e) ∧
        (((diagramPageLines settings s).map PageLine.text).filterMap listedEdge?).Perm
          (s.edges.filter fun e => ¬ IsDrawn settings s e)) := by
  have hdrawn : ((diagramPageLines settings s).filterMap PageLine.drawn?).Perm
      (s.edges.filter fun e => IsDrawn settings s e) := by
    rw [drawn_diagramPageLines]
    exact drawn_perm settings s
  have hlisted : ((diagramPageLines settings s).filterMap PageLine.row?).Perm
      (s.edges.filter fun e => ¬ IsDrawn settings s e) := by
    rw [row_diagramPageLines]
    exact listed_append_leaving_perm settings s
  refine ⟨text_diagramPageLines settings s, hdrawn, hlisted, fun hplain => ?_⟩
  have hread := readsBack_diagramPageLines settings hplain
  rw [List.filterMap_map, List.filterMap_map]
  exact ⟨(List.Perm.of_eq (List.filterMap_congr fun l hl => (hread l hl).1)).trans hdrawn,
    (List.Perm.of_eq (List.filterMap_congr fun l hl => (hread l hl).2)).trans hlisted⟩

/-- A page with an edge that is drawn, one in a category that is too large, and one that leaves its
category. -/
theorem diagramPage_edges_of_each_kind :
    let settings : DocSettings := { erdMaxModels := ⟨1, by decide⟩ }
    let key : Field := { name := "id", baseType := "Int", kind := .scalar, isId := true }
    let s : Schema := { models := [
      { name := "User", fields := [key,
        { name := "boss", baseType := "User", kind := .relation, isOptional := true },
        { name := "posts", baseType := "Post", kind := .relation, isList := true }] },
      { name := "Post", fields := [key, { name := "tag", baseType := "Tag", kind := .relation }] },
      { name := "Tag", fields := [key] }] }
    (∀ e ∈ s.edges, e.HasPlainNames) ∧
      diagramPage settings s = "\n".intercalate [
        "# ERD Overview", "", "> High-level entity relationship diagram by category", "",
        "## 🔐 Auth", "", "```mermaid", "erDiagram", "    User \x7b", "        int id PK", "    \x7d",
        "    User \x7do--|| User : \"boss\"", "```", "",
        "## 📁 Other", "",
        "> Too many models (2) for a single diagram. See individual model pages.", "",
        "Models: `Post`, `Tag`", "", "| From | Field | To | Cardinality |",
        "|------|-------|----|-------------|", "| `Post` | `tag` | `Tag` | Many-to-One |", "",
        "## Cross-Category Relations", "", "| From | Field | To | Cardinality |",
        "|------|-------|----|-------------|", "| `User` | `posts` | `Post` | One-to-Many |", ""] ∧
      (((diagramPageLines settings s).map PageLine.text).filterMap drawnEdge?).Perm
        [⟨"User", "boss", "User", .manyToOneOptional⟩] ∧
      (((diagramPageLines settings s).map PageLine.text).filterMap listedEdge?).Perm
        [⟨"User", "posts", "Post", .oneToMany⟩, ⟨"Post", "tag", "Tag", .manyToOne⟩] := by
  intro settings key s
  have hplain : ∀ e ∈ s.edges, e.HasPlainNames := by decide
  have hedges : (s.edges.filter fun e => IsDrawn settings s e) =
        [⟨"User", "boss", "User", .manyToOneOptional⟩] ∧
      (s.edges.filter fun e => ¬ IsDrawn settings s e) =
        [⟨"User", "posts", "Post", .oneToMany⟩, ⟨"Post", "tag", "Tag", .manyToOne⟩] := by
    decide +kernel
  have hcategories : (s.models.map Model.category).eraseDups.Perm [.auth, .other] ∧
      ∀ c ∈ [Category.auth, .other],
        (s.models.filter fun m => m.category = c).Pairwise fun m m' => m.name ≤ m'.name := by
    decide +kernel
  have hgroups : modelGroups s.models =
      [Category.auth, .other].map (groupOf Model.category s.models) :=
    modelGroups_eq_of_pairwise (by decide) hcategories.1 hcategories.2
  obtain ⟨-, -, -, hread⟩ := diagramPage_edges settings s
  rw [← hedges.1, ← hedges.2]
  refine ⟨hplain, ?_, hread hplain⟩
  rw [diagramPage, diagramSections, hgroups]
  decide +kernel

end SchemaAtlas.Docs

import SchemaAtlas.Docs.ModelPage
import SchemaAtlas.Proofs.Overview.CategoryGroups

/-!
# Reading tables off a page

`linesBelow` reads the lines below a heading off the lines of a page, and `rowsBelow` the rows of
the table there.  On the page of a model it finds the rows for the fields that hold values
(`rowsBelow_fields`), those for the relation fields of the model (`rowsBelow_relations`) and those for
the relation fields of other models that refer to it (`rowsBelow_references`).  If there are no such
relation fields, the page has no such heading, and nothing is found.  The rows of the index that begin
with a link are those of the models (`linkRows_indexLines_perm`).
-/

namespace SchemaAtlas.Docs

open Text Markdown

/-! ### Headings and rows -/

/-- The line is the heading of a section. -/
def isHeading (line : String) : Bool :=
  startsWith "## " line.toList

/-- The line is a row of a table, or its header. -/
def isRow (line : String) : Bool :=
  startsWith "| " line.toList

/-- The lines below a heading, from which an empty line separates them. -/
def linesBelow (title : String) (lines : List String) : List String :=
  (lines.dropWhile fun line => line != "## " ++ title).drop 2

/-- The rows of the table below a heading, from which an empty line and the two lines of the table's
header separate them. -/
def rowsBelow (title : String) (lines : List String) : List String :=
  ((lines.dropWhile fun line => line != "## " ++ title).drop 4).takeWhile isRow

theorem rowsBelow_eq (title : String) (lines : List String) :
    rowsBelow title lines = ((linesBelow title lines).drop 2).takeWhile isRow := by
  rw [rowsBelow, linesBelow, List.drop_drop]

theorem isHeading_heading (title : String) : isHeading ("## " ++ title) := by
  simp [isHeading, startsWith]

theorem ne_heading {title line : String} (h : isHeading line = false) : "## " ++ title ≠ line := by
  rintro rfl
  rw [isHeading_heading] at h
  cases h

theorem isRow_rowLine (cells : List String) : isRow (rowLine cells) := by
  simp [isRow, rowLine, startsWith]

theorem isHeading_rowLine (cells : List String) : isHeading (rowLine cells) = false := by
  simp [isHeading, rowLine, startsWith, List.isPrefixOf]

theorem isHeading_of_mem_table {t : Table} {line : String} (h : line ∈ t.lines) :
    isHeading line = false := by
  simp only [Table.lines, List.mem_cons, List.mem_map] at h
  obtain rfl | rfl | ⟨cells, -, rfl⟩ := h
  · exact isHeading_rowLine _
  · simp [isHeading, ruleLine, startsWith, List.isPrefixOf]
  · exact isHeading_rowLine _

theorem isHeading_of_mem_attributeItems {attributes : List BlockAttribute} {line : String}
    (h : line ∈ attributes.map attributeItem) : isHeading line = false := by
  obtain ⟨a, -, rfl⟩ := List.mem_map.1 h
  simp [isHeading, attributeItem, startsWith, List.isPrefixOf]

theorem isHeading_of_mem_diagram {d : Diagram} {line : String} (h : line ∈ d.lines) :
    isHeading line = false := by
  simp only [Diagram.lines, Entity.lines, List.mem_append, List.mem_flatMap, List.mem_cons,
    List.mem_map, List.not_mem_nil, or_false] at h
  obtain (((rfl | rfl) | ⟨e, -, (rfl | ⟨a, -, rfl⟩) | rfl⟩) | ⟨e, -, rfl⟩) | rfl | rfl := h <;>
    simp [isHeading, startsWith, List.isPrefixOf, EntityAttribute.line, Edge.line]

/-! ### Sections -/

section

variable {title : String}

theorem linesBelow_append {before : List String} (h : "## " ++ title ∉ before)
    (rest : List String) : linesBelow title (before ++ rest) = linesBelow title rest := by
  have hpassed : ∀ line ∈ before, line != "## " ++ title := by
    intro line hline
    rw [bne_iff_ne]
    exact ne_of_mem_of_not_mem hline h
  rw [linesBelow, linesBelow, List.dropWhile_append_of_pos hpassed]

theorem linesBelow_titledSection {lines : List String} (h : lines ≠ []) (after : List String) :
    linesBelow title (titledSection title lines ++ after) = lines ++ after := by
  have hempty : ("" != "## " ++ title) := bne_iff_ne.2 (ne_heading (by decide)).symm
  rw [titledSection, if_neg (by simpa using h), linesBelow]
  simp only [List.cons_append, List.nil_append, List.dropWhile_cons, hempty, if_true,
    bne_self_eq_false, Bool.false_eq_true, if_false, List.drop_succ_cons, List.drop_zero]

theorem rowsBelow_append {before : List String} (h : "## " ++ title ∉ before)
    (rest : List String) : rowsBelow title (before ++ rest) = rowsBelow title rest := by
  rw [rowsBelow_eq, rowsBelow_eq, linesBelow_append h]

theorem rowsBelow_eq_nil {lines : List String} (h : "## " ++ title ∉ lines) :
    rowsBelow title lines = [] := by
  have hnil := rowsBelow_append h []
  rwa [List.append_nil] at hnil

theorem heading_mem_titledSection {lines : List String} (h : lines ≠ []) :
    "## " ++ title ∈ titledSection title lines := by
  rw [titledSection, if_neg (by simpa using h)]
  simp

/-- A section with another heading. -/
theorem heading_notMem_titledSection {other : String} {lines : List String} (hne : title ≠ other)
    (hlines : ∀ line ∈ lines, isHeading line = false) :
    "## " ++ title ∉ titledSection other lines := by
  have hheading : "## " ++ title ≠ "## " ++ other := by
    rwa [ne_eq, String.append_right_inj]
  have hempty : "## " ++ title ≠ "" := ne_heading (by decide)
  unfold titledSection
  split
  · exact List.not_mem_nil
  · simp only [List.cons_append, List.nil_append, List.mem_cons, not_or]
    exact ⟨hempty, hheading, hempty, fun h => ne_heading (hlines _ h) rfl⟩

theorem heading_notMem_tableSection {other : String} {t : Table} (hne : title ≠ other) :
    "## " ++ title ∉ tableSection other t := by
  refine heading_notMem_titledSection hne fun line hline => ?_
  split at hline
  · cases hline
  · exact isHeading_of_mem_table hline

/-- An empty line stands in front of every section. -/
theorem head?_titledSection_append {other : String} {lines after : List String}
    (hafter : after.head? = some "") : (titledSection other lines ++ after).head? = some "" := by
  unfold titledSection
  split
  · exact hafter
  · rfl

/-- The rows below a heading end at the empty line behind the table. -/
theorem rowsBelow_of_linesBelow {lines after : List String} {t : Table}
    (h : linesBelow title lines = t.lines ++ after) (hend : after.head? = some "") :
    rowsBelow title lines = t.rows.map rowLine := by
  obtain ⟨rest, rfl⟩ := List.head?_eq_some_iff.1 hend
  have hstop : isRow "" = false := by decide
  have hall : ∀ line ∈ t.rows.map rowLine, isRow line := by
    intro line hline
    obtain ⟨cells, -, rfl⟩ := List.mem_map.1 hline
    exact isRow_rowLine cells
  rw [rowsBelow_eq, h, Table.lines, List.cons_append, List.cons_append, List.drop_succ_cons,
    List.drop_succ_cons, List.drop_zero, List.takeWhile_append_of_pos hall, List.takeWhile_cons,
    hstop]
  simp

theorem linesBelow_tableSection {t : Table} (hrows : t.rows ≠ []) (after : List String) :
    linesBelow title (tableSection title t ++ after) = t.lines ++ after := by
  unfold tableSection
  rw [if_neg (by simpa using hrows), linesBelow_titledSection (by simp [Table.lines])]

theorem rowsBelow_tableSection {t : Table} {after : List String}
    (hafter : "## " ++ title ∉ after) (hend : after.head? = some "") :
    rowsBelow title (tableSection title t ++ after) = t.rows.map rowLine := by
  by_cases hrows : t.rows = []
  · unfold tableSection
    rw [if_pos (by simp [hrows]), hrows]
    exact rowsBelow_eq_nil hafter
  · exact rowsBelow_of_linesBelow (linesBelow_tableSection hrows after) hend

end

/-! ### The page of a model -/

section

variable (settings : DocSettings) (s : Schema) (m : Model)

/-- The lines of the page in front of the relation fields. -/
def openingLines : List String :=
  ["# " ++ m.name, ""] ++ storageNote m ++
    ["**Schema location:** Lines " ++ toString m.line ++ "-" ++ toString m.endLine, "",
      "## Fields", ""] ++ (fieldTable m).lines

/-- The lines of the page below the references. -/
def closingLines : List String :=
  titledSection "Indexes" (m.indexes.map attributeItem) ++
    (titledSection "Unique Constraints" (m.uniqueConstraints.map attributeItem) ++
      if m.relationFields.isEmpty && (s.referencesTo m.name).isEmpty then [""]
      else titledSection "Entity Diagram" (entityDiagram settings s m).lines)

theorem modelPageLines_eq :
    modelPageLines settings s m =
      openingLines m ++ (tableSection "Relations" (relationTable m) ++
        (tableSection "Referenced By" (referenceTable (s.referencesTo m.name)) ++
          closingLines settings s m)) := by
  simp only [modelPageLines, openingLines, closingLines, List.append_assoc]

variable {title : String}

theorem heading_notMem_storageNote : "## " ++ title ∉ storageNote m := by
  simp only [storageNote]
  split
  · exact List.not_mem_nil
  · rw [List.mem_cons, List.mem_singleton, not_or]
    exact ⟨ne_heading (by simp [isHeading, startsWith, List.isPrefixOf]), ne_heading (by decide)⟩

/-- The lines of the page in front of the heading of the fields. -/
def linesAboveFields : List String :=
  ["# " ++ m.name, ""] ++ storageNote m ++
    ["**Schema location:** Lines " ++ toString m.line ++ "-" ++ toString m.endLine]

theorem openingLines_eq :
    openingLines m = linesAboveFields m ++ titledSection "Fields" (fieldTable m).lines := by
  unfold openingLines linesAboveFields titledSection
  simp [Table.lines]

theorem heading_notMem_linesAboveFields : "## " ++ title ∉ linesAboveFields m := by
  have hname : "## " ++ title ≠ "# " ++ m.name :=
    ne_heading (by simp [isHeading, startsWith, List.isPrefixOf])
  have hlocation : "## " ++ title ≠
      "**Schema location:** Lines " ++ toString m.line ++ "-" ++ toString m.endLine :=
    ne_heading (by simp [isHeading, startsWith, List.isPrefixOf])
  simp only [linesAboveFields, List.mem_append, List.mem_cons, List.not_mem_nil, or_false, not_or]
  exact ⟨⟨⟨hname, ne_heading (by decide)⟩, heading_notMem_storageNote m⟩, hlocation⟩

theorem heading_notMem_openingLines (htitle : title ≠ "Fields") :
    "## " ++ title ∉ openingLines m := by
  rw [openingLines_eq, List.mem_append, not_or]
  exact ⟨heading_notMem_linesAboveFields m,
    heading_notMem_titledSection htitle fun _ => isHeading_of_mem_table⟩

theorem heading_notMem_closingLines
    (htitle : title ∉ ["Indexes", "Unique Constraints", "Entity Diagram"]) :
    "## " ++ title ∉ closingLines settings s m := by
  simp only [List.mem_cons, List.not_mem_nil, or_false, not_or] at htitle
  obtain ⟨hindexes, hconstraints, hdiagram⟩ := htitle
  rw [closingLines, List.mem_append, List.mem_append, not_or, not_or]
  refine ⟨heading_notMem_titledSection hindexes fun _ => isHeading_of_mem_attributeItems,
    heading_notMem_titledSection hconstraints fun _ => isHeading_of_mem_attributeItems, ?_⟩
  split
  · rw [List.mem_singleton]
    exact ne_heading (by decide)
  · exact heading_notMem_titledSection hdiagram fun line hline => isHeading_of_mem_diagram hline

theorem head?_closingLines : (closingLines settings s m).head? = some "" := by
  unfold closingLines
  refine head?_titledSection_append (head?_titledSection_append ?_)
  split <;> rfl

/-- The lines of the page below the fields. -/
def linesBelowFields : List String :=
  tableSection "Relations" (relationTable m) ++
    (tableSection "Referenced By" (referenceTable (s.referencesTo m.name)) ++
      closingLines settings s m)

theorem head?_linesBelowFields : (linesBelowFields settings s m).head? = some "" := by
  unfold linesBelowFields
  exact head?_titledSection_append (head?_titledSection_append (head?_closingLines settings s m))

theorem linesBelow_fields :
    linesBelow "Fields" (modelPageLines settings s m) =
      (fieldTable m).lines ++ linesBelowFields settings s m := by
  rw [modelPageLines_eq, openingLines_eq, List.append_assoc,
    linesBelow_append (heading_notMem_linesAboveFields m),
    linesBelow_titledSection (by simp [Table.lines])]
  rfl

/-- The fields that hold values are the rows below their heading. -/
theorem rowsBelow_fields :
    rowsBelow "Fields" (modelPageLines settings s m) = (fieldTable m).rows.map rowLine :=
  rowsBelow_of_linesBelow (linesBelow_fields settings s m) (head?_linesBelowFields settings s m)

theorem linesBelow_relations (hfields : m.relationFields ≠ []) :
    ∃ rest, linesBelow "Relations" (modelPageLines settings s m) =
      (relationTable m).lines ++ rest := by
  have hrows : (relationTable m).rows ≠ [] := by
    unfold relationTable
    simpa using hfields
  rw [modelPageLines_eq, linesBelow_append (heading_notMem_openingLines m (by decide)),
    linesBelow_tableSection hrows]
  exact ⟨_, rfl⟩

theorem linesBelow_references (hreferences : s.referencesTo m.name ≠ []) :
    ∃ rest, linesBelow "Referenced By" (modelPageLines settings s m) =
      (referenceTable (s.referencesTo m.name)).lines ++ rest := by
  have hrows : (referenceTable (s.referencesTo m.name)).rows ≠ [] := by
    unfold referenceTable
    simpa using hreferences
  rw [modelPageLines_eq, linesBelow_append (heading_notMem_openingLines m (by decide)),
    linesBelow_append (heading_notMem_tableSection (by decide)), linesBelow_tableSection hrows]
  exact ⟨_, rfl⟩

/-- The relation fields are the rows below their heading. -/
theorem rowsBelow_relations :
    rowsBelow "Relations" (modelPageLines settings s m) = (relationTable m).rows.map rowLine := by
  rw [modelPageLines_eq, rowsBelow_append (heading_notMem_openingLines m (by decide))]
  refine rowsBelow_tableSection ?_ (head?_titledSection_append (head?_closingLines settings s m))
  rw [List.mem_append, not_or]
  exact ⟨heading_notMem_tableSection (by decide),
    heading_notMem_closingLines settings s m (by decide)⟩

/-- The relation fields of other models that refer to the model are the rows below theirs. -/
theorem rowsBelow_references :
    rowsBelow "Referenced By" (modelPageLines settings s m) =
      (referenceTable (s.referencesTo m.name)).rows.map rowLine := by
  rw [modelPageLines_eq, rowsBelow_append (heading_notMem_openingLines m (by decide)),
    rowsBelow_append (heading_notMem_tableSection (by decide))]
  exact rowsBelow_tableSection (heading_notMem_closingLines settings s m (by decide))
    (head?_closingLines settings s m)

end

/-! ### The index -/

/-- The line is a row that begins with a link. -/
def isLinkRow (line : String) : Bool :=
  startsWith "| [" line.toList

theorem isLinkRow_rowLine (cell : String) (cells : List String) :
    isLinkRow (rowLine (cell :: cells)) = startsWith "[" cell.toList := by
  cases cells with
  | nil => cases h : cell.toList <;> simp [isLinkRow, rowLine, startsWith, List.isPrefixOf, h]
  | cons next rest =>
    cases h : cell.toList <;>
      simp [isLinkRow, rowLine, joined_cons_cons, startsWith, List.isPrefixOf, h]

theorem isLinkRow_modelRow (settings : DocSettings) (m : Model) :
    isLinkRow (rowLine (modelRow settings m)) := by
  rw [modelRow, isLinkRow_rowLine]
  simp [link, startsWith, List.isPrefixOf]

/-- The lines of the index, where `enumerations` are the lines of each enumeration. -/
def indexLines (settings : DocSettings) (origin : Origin) (s : Schema)
    (enumerations : List (List String)) : List String :=
  ["# Database Schema Documentation", ""] ++ originLines origin ++
    ["## Overview", ""] ++ (countTable s).lines ++ ["", "## Models by Category", ""] ++
    (modelGroups s.models).flatMap (groupLines settings) ++ ["## Enums", ""] ++
    enumerations.flatten

section

variable {settings : DocSettings} {origin : Origin} {s : Schema}

theorem indexPage_eq_ok {enumerations : List (List String)}
    (h : s.enumerations.mapM enumerationLines = .ok enumerations) :
    indexPage settings origin s =
      .ok (joined "\n" (indexLines settings origin s enumerations)) := by
  rw [indexPage, h]
  rfl

theorem linkRows_originLines : (originLines origin).filter isLinkRow = [] := by
  have hsource : isLinkRow ("> Auto-generated from " ++ code origin.source) = false := by
    simp [isLinkRow, startsWith, List.isPrefixOf]
  have hday : ∀ day, isLinkRow ("> Generated: " ++ day) = false := by
    simp [isLinkRow, startsWith, List.isPrefixOf]
  have hempty : isLinkRow "" = false := by decide
  rw [originLines, List.filter_append, List.filter_append]
  cases origin.day with
  | none => simp [hsource, hempty]
  | some day =>
    cases h : day.isEmpty <;> simp [hsource, hempty, hday, h]

theorem linkRows_table {t : Table} (hheader : isLinkRow (rowLine t.header) = false)
    (hrule : isLinkRow (ruleLine t.header) = false) :
    t.lines.filter isLinkRow = (t.rows.map rowLine).filter isLinkRow := by
  simp [Table.lines, hheader, hrule]

theorem linkRows_countTable : (countTable s).lines.filter isLinkRow = [] := by
  have hheader : (countTable s).header = ["Metric", "Count"] := rfl
  rw [linkRows_table (by rw [hheader]; decide) (by rw [hheader]; decide), List.filter_eq_nil_iff,
    countTable]
  simp only [List.map_cons, List.map_nil, List.forall_mem_cons, isLinkRow_rowLine]
  simp [startsWith, List.isPrefixOf]

theorem linkRows_groupLines (g : CategoryGroup Model) :
    (groupLines settings g).filter isLinkRow =
      g.members.map fun m => rowLine (modelRow settings m) := by
  have hheader : (groupTable settings g).header = ["Model", "Fields", "Relations", "Indexes"] := rfl
  have hheading : ["### " ++ categoryTitle g.category ++ " (" ++ toString g.members.length ++ ")",
      ""].filter isLinkRow = [] := by
    simp [isLinkRow, startsWith, List.isPrefixOf]
  have hempty : [""].filter isLinkRow = [] := by decide
  have hrows : ((groupTable settings g).rows.map rowLine).filter isLinkRow =
      g.members.map fun m => rowLine (modelRow settings m) := by
    rw [groupTable, List.map_map]
    refine List.filter_eq_self.2 fun line hline => ?_
    obtain ⟨m, -, rfl⟩ := List.mem_map.1 hline
    exact isLinkRow_modelRow settings m
  rw [groupLines, List.filter_append, List.filter_append,
    linkRows_table (by rw [hheader]; decide) (by rw [hheader]; decide), hheading, hrows, hempty,
    List.nil_append, List.append_nil]

theorem linkRows_enumerationLines {e : Enumeration} {part : List String}
    (h : enumerationLines e = .ok part) : part.filter isLinkRow = [] := by
  rw [enumerationLines] at h
  cases hmembers : e.members with
  | error fault => simp [hmembers, bind, Except.bind] at h
  | ok members =>
    obtain rfl : ["### " ++ e.name, "", code (joined "` | `" members), ""] = part := by
      simpa [hmembers, bind, Except.bind, pure, Except.pure] using h
    simp [isLinkRow, code, startsWith, List.isPrefixOf]

/-- The rows of the models are the rows of the index that begin with a link. -/
theorem linkRows_indexLines_perm {enumerations : List (List String)}
    (h : s.enumerations.mapM enumerationLines = .ok enumerations) :
    ((indexLines settings origin s enumerations).filter isLinkRow).Perm
      (s.models.map fun m => rowLine (modelRow settings m)) := by
  have hparts : enumerations.flatten.filter isLinkRow = [] := by
    rw [List.filter_flatten, List.flatten_eq_nil_iff]
    intro lines hlines
    obtain ⟨part, hpart, rfl⟩ := List.mem_map.1 hlines
    obtain ⟨e, -, he⟩ := (exists_of_mem_mapM h).2 part hpart
    exact linkRows_enumerationLines he
  have hheadings : ∀ line ∈ ["# Database Schema Documentation", "", "## Overview",
      "## Models by Category", "## Enums"], isLinkRow line = false := by
    decide
  have hrows : (indexLines settings origin s enumerations).filter isLinkRow =
      ((modelGroups s.models).flatMap CategoryGroup.members).map
        fun m => rowLine (modelRow settings m) := by
    simp only [indexLines, List.filter_append, linkRows_originLines, linkRows_countTable, hparts,
      List.filter_flatMap, linkRows_groupLines, List.map_flatMap]
    simp [hheadings]
  rw [hrows]
  exact (sameGroups s).groups_perm.map _

end

end SchemaAtlas.Docs

import SchemaAtlas.Proofs.Docs.DiagramLines
import SchemaAtlas.Proofs.Docs.PageTables
import SchemaAtlas.Proofs.Lists

/-!
# The diagram on the page of a model

A relation between two models makes them neighbours (`Model.IsNeighbour`).  `DrawsNeighbourhood`
says what a diagram draws of a model: the model, with as many of its fields as the limit allows, its
neighbours and an edge for every relation field.  A schema may give a name to several models.  They
share one entity, which is drawn as the first of them, and are no neighbours of each other.

Main statement: the page of a model has a diagram exactly if a relation field starts at the model or
leads to it from another, and the lines below the heading declare the entities and draw the edges of the
neighbourhood of the model (`modelPage_drawsNeighbourhood`).
-/

namespace SchemaAtlas

/-- A relation field of the model has the given type. -/
def Model.RefersTo (m : Model) (name : String) : Prop :=
  ∃ f ∈ m.relationFields, f.baseType = name

/-- The models have different names, and one refers to the other. -/
def Model.IsNeighbour (m other : Model) : Prop :=
  other.name ≠ m.name ∧ (m.RefersTo other.name ∨ other.RefersTo m.name)

namespace Docs

open Text

/-- The entities and edges draw the model `m`, whose own entity comes first, and its neighbours in
the schema. -/
structure DrawsNeighbourhood (settings : DocSettings) (s : Schema) (m : Model) (own : Entity)
    (others : List Entity) (edges : List Edge) : Prop where
  own_name : own.name = m.name
  own_attributes : own.attributes =
    (m.scalarFields.take settings.entityFieldLimit.val).map (fun f =>
        ⟨lower f.baseType, f.name, if f.isId then "PK" else if f.isUnique then "UK" else ""⟩) ++
      if settings.entityFieldLimit.val < m.scalarFields.length then
        [⟨"string", "_more_fields", ""⟩]
      else []
  nodup_names : ((own :: others).map Entity.name).Nodup
  mem_others_iff : ∀ name, name ∈ others.map Entity.name ↔
    ∃ other ∈ s.models, other.name = name ∧ m.IsNeighbour other
  others_stub : ∀ e ∈ others, ∃ other ∈ s.model? e.name,
    e.attributes = other.primaryKey?.toList.map fun key => ⟨lower key.baseType, key.name, "PK"⟩
  edges_eq : edges = m.relationFields.map (Edge.ofField m.name)
  joins : ∀ e ∈ edges, (∃ target ∈ s.models, target.name = e.target) →
    e.source ∈ (own :: others).map Entity.name ∧ e.target ∈ (own :: others).map Entity.name

section

variable (settings : DocSettings) (s : Schema) (m : Model)

/-! ### Neighbours -/

variable {s m} in
theorem exists_mem_referencesTo_iff {name : String} {p : Model → Prop} :
    (∃ r ∈ s.referencesTo name, p r.1) ↔
      ∃ other ∈ s.models, other.name ≠ name ∧ other.RefersTo name ∧ p other := by
  constructor
  · rintro ⟨⟨other, f⟩, h, hp⟩
    obtain ⟨hother, hne, hf, htype⟩ := Schema.mem_referencesTo.1 h
    exact ⟨other, hother, hne, ⟨f, hf, htype⟩, hp⟩
  · rintro ⟨other, hother, hne, ⟨f, hf, htype⟩, hp⟩
    exact ⟨(other, f), Schema.mem_referencesTo.2 ⟨hother, hne, hf, htype⟩, hp⟩

variable {s m} in
theorem mem_neighbourNames {name : String} :
    name ∈ neighbourNames s m ↔ name ≠ m.name ∧
      (m.RefersTo name ∨ ∃ other ∈ s.models, other.name = name ∧ other.RefersTo m.name) := by
  have hsource : name ∈ (s.referencesTo m.name).map (fun r => r.1.name) ↔
      name ≠ m.name ∧ ∃ other ∈ s.models, other.name = name ∧ other.RefersTo m.name := by
    refine List.mem_map.trans ((exists_mem_referencesTo_iff (p := (·.name = name))).trans ?_)
    constructor
    · rintro ⟨other, hother, hne, hrefers, rfl⟩
      exact ⟨hne, other, hother, rfl, hrefers⟩
    · rintro ⟨hne, other, hother, rfl, hrefers⟩
      exact ⟨other, hother, hne, hrefers, rfl⟩
  rw [neighbourNames, List.mem_eraseDups, List.mem_append, List.mem_filter, bne_iff_ne, hsource,
    List.mem_map, and_comm, ← and_or_left]
  rfl

theorem map_name_filterMap_model? (names : List String) :
    (names.filterMap s.model?).map Model.name =
      names.filter fun name => (s.model? name).isSome := by
  induction names with
  | nil => rfl
  | cons name rest ih =>
    cases h : s.model? name with
    | none => simp [h, ih]
    | some other => simp [h, ih, (Schema.mem_models_of_model? h).2]

/-- The entities of the neighbours. -/
def neighbourEntities : List Entity :=
  ((neighbourNames s m).filterMap s.model?).map Entity.stub

theorem map_name_neighbourEntities :
    (neighbourEntities s m).map Entity.name =
      (neighbourNames s m).filter fun name => (s.model? name).isSome := by
  rw [← map_name_filterMap_model?, neighbourEntities, List.map_map]
  rfl

variable {s m} in
theorem mem_map_name_neighbourEntities {name : String} :
    name ∈ (neighbourEntities s m).map Entity.name ↔
      ∃ other ∈ s.models, other.name = name ∧ m.IsNeighbour other := by
  rw [map_name_neighbourEntities, List.mem_filter, mem_neighbourNames, Schema.model?_isSome]
  constructor
  · rintro ⟨⟨hne, htarget | ⟨other, hother, rfl, hsource⟩⟩, known, hknown, hname⟩
    · subst hname
      exact ⟨known, hknown, rfl, hne, Or.inl htarget⟩
    · exact ⟨other, hother, rfl, hne, Or.inr hsource⟩
  · rintro ⟨other, hother, rfl, hne, htarget | hsource⟩
    · exact ⟨⟨hne, Or.inl htarget⟩, other, hother, rfl⟩
    · exact ⟨⟨hne, Or.inr ⟨other, hother, rfl, hsource⟩⟩, other, hother, rfl⟩

theorem drawsNeighbourhood_entityDiagram :
    DrawsNeighbourhood settings s m (pageEntity settings m) (neighbourEntities s m)
      (m.relationFields.map (Edge.ofField m.name)) where
  own_name := rfl
  own_attributes := by
    simp only [pageEntity]
    split
    · rfl
    · rw [List.append_nil]
      rfl
  nodup_names := by
    rw [List.map_cons, List.nodup_cons, mem_map_name_neighbourEntities]
    refine ⟨?_, ?_⟩
    · rintro ⟨other, -, hname, hne, -⟩
      exact hne hname
    · rw [map_name_neighbourEntities]
      exact (nodup_eraseDups _).filter _
  mem_others_iff _ := mem_map_name_neighbourEntities
  others_stub e he := by
    obtain ⟨other, hother, rfl⟩ := List.mem_map.1 he
    obtain ⟨name, -, hname⟩ := List.mem_filterMap.1 hother
    obtain ⟨-, rfl⟩ := Schema.mem_models_of_model? hname
    refine ⟨other, hname, ?_⟩
    rw [Entity.stub, Model.keyAttribute]
    cases other.primaryKey? <;> rfl
  edges_eq := rfl
  joins e he := by
    rintro ⟨target, htarget, hname⟩
    obtain ⟨f, hf, rfl⟩ := List.mem_map.1 he
    refine ⟨List.mem_cons_self, ?_⟩
    rw [List.map_cons, List.mem_cons, mem_map_name_neighbourEntities]
    by_cases hown : f.baseType = m.name
    · exact Or.inl hown
    · refine Or.inr ⟨target, htarget, hname, ?_, Or.inl ⟨f, hf, hname.symm⟩⟩
      rwa [hname]

/-! ### The page -/

/-- The diagram is the last section of the page, and no heading in front of it is its own. -/
theorem exists_modelPageLines_eq_append : ∃ before,
    "## " ++ "Entity Diagram" ∉ before ∧
    modelPageLines settings s m = before ++
      if m.relationFields.isEmpty && (s.referencesTo m.name).isEmpty then [""]
      else titledSection "Entity Diagram" (entityDiagram settings s m).lines := by
  refine ⟨openingLines m ++ tableSection "Relations" (relationTable m) ++
    tableSection "Referenced By" (referenceTable (s.referencesTo m.name)) ++
    titledSection "Indexes" (m.indexes.map attributeItem) ++
    titledSection "Unique Constraints" (m.uniqueConstraints.map attributeItem), ?_, ?_⟩
  · simp only [List.mem_append, not_or]
    exact ⟨⟨⟨⟨heading_notMem_openingLines m (by decide), heading_notMem_tableSection (by decide)⟩,
      heading_notMem_tableSection (by decide)⟩,
      heading_notMem_titledSection (by decide) fun _ => isHeading_of_mem_attributeItems⟩,
      heading_notMem_titledSection (by decide) fun _ => isHeading_of_mem_attributeItems⟩
  · simp only [modelPageLines_eq, closingLines, List.append_assoc]

theorem isEmpty_relationFields_and_referencesTo :
    (m.relationFields.isEmpty && (s.referencesTo m.name).isEmpty) = false ↔
      m.relationFields ≠ [] ∨ ∃ other ∈ s.models, other.name ≠ m.name ∧ other.RefersTo m.name := by
  have hsource : (s.referencesTo m.name).isEmpty = false ↔
      ∃ other ∈ s.models, other.name ≠ m.name ∧ other.RefersTo m.name := by
    rw [List.isEmpty_eq_false_iff_exists_mem]
    simpa using exists_mem_referencesTo_iff (s := s) (p := fun _ => True)
  rw [Bool.and_eq_false_iff, List.isEmpty_eq_false_iff, hsource]

/-- The page has a diagram exactly if a relation field starts at the model or leads to it from
another model, and the lines of the diagram declare the entities and draw the edges of the
neighbourhood of the model.  If the names are plain, these are the entities and edges that a reader
finds there. -/
theorem modelPage_drawsNeighbourhood : ∃ lines,
    modelPage settings s m = joined "\n" lines ∧
    ("## Entity Diagram" ∈ lines ↔
      m.relationFields ≠ [] ∨ ∃ other ∈ s.models, other.name ≠ m.name ∧ other.RefersTo m.name) ∧
    ("## Entity Diagram" ∈ lines → ∃ own others edges,
      linesBelow "Entity Diagram" lines =
        ["```mermaid", "erDiagram"] ++ (own :: others).flatMap entityForm ++ edges.map edgeForm ++
          ["```", ""] ∧
      DrawsNeighbourhood settings s m own others edges ∧
      ((∀ e ∈ own :: others, ' ' ∉ e.name.toList) → (∀ e ∈ edges, e.HasPlainNames) →
        (linesBelow "Entity Diagram" lines).filterMap openedEntity? =
          (own :: others).map Entity.name ∧
        (linesBelow "Entity Diagram" lines).filterMap drawnEdge? = edges)) := by
  refine ⟨modelPageLines settings s m, rfl, ?_⟩
  obtain ⟨before, hbefore, hlines⟩ := exists_modelPageLines_eq_append settings s m
  have hheading : "## Entity Diagram" = "## " ++ "Entity Diagram" := by decide
  rw [hheading, ← isEmpty_relationFields_and_referencesTo, hlines, List.mem_append,
    or_iff_right hbefore, linesBelow_append hbefore]
  cases m.relationFields.isEmpty && (s.referencesTo m.name).isEmpty with
  | true =>
    have hnone : "## " ++ "Entity Diagram" ∉ [""] := by decide
    rw [if_pos rfl]
    exact ⟨iff_of_false hnone (by decide), fun h => absurd h hnone⟩
  | false =>
    have hdiagram : (entityDiagram settings s m).lines ≠ [] := by simp [Diagram.lines]
    have hbelow : linesBelow "Entity Diagram"
        (titledSection "Entity Diagram" (entityDiagram settings s m).lines ++ []) =
          (entityDiagram settings s m).lines ++ [] := linesBelow_titledSection hdiagram []
    rw [List.append_nil, List.append_nil] at hbelow
    rw [if_neg (by decide), hbelow]
    refine ⟨iff_of_true (heading_mem_titledSection hdiagram) rfl, fun _ => ⟨_, _, _,
      diagramLines_eq _, drawsNeighbourhood_entityDiagram settings s m, fun hnames hedges => ?_⟩⟩
    exact filterMap_diagramLines (d := entityDiagram settings s m) hnames hedges

end

/-- The page of a model that refers to itself and to another, with one field fewer than the model
has. -/
theorem modelPage_drawsNeighbourhood_of_self :
    let settings : DocSettings := { entityFieldLimit := ⟨1, by decide⟩ }
    let key : Field := { name := "id", baseType := "Int", kind := .scalar, isId := true }
    let user : Model := { name := "User", line := 1, endLine := 6, fields := [key,
      { name := "email", baseType := "String", kind := .scalar, isUnique := true },
      { name := "boss", baseType := "User", kind := .relation, isOptional := true },
      { name := "posts", baseType := "Post", kind := .relation, isList := true }] }
    let s : Schema := { models := [user, { name := "Post", fields := [key] }] }
    modelPage settings s user = "\n".intercalate [
        "# User", "", "**Schema location:** Lines 1-6", "", "## Fields", "",
        "| Field | Type | Required | Unique | Default | Notes |",
        "|-------|------|----------|--------|---------|-------|",
        "| `id` | `Int` | ✅ | 🔑 PK |  |  |", "| `email` | `String` | ✅ | ✅ |  |  |", "",
        "## Relations", "",
        "| Field | Type | Cardinality | FK Fields | References | On Delete |",
        "|-------|------|-------------|-----------|------------|-----------|",
        "| `boss` | [User](./User.md) | Many-to-One (optional) | - | - | - |",
        "| `posts` | [Post](./Post.md) | One-to-Many | - | - | - |", "",
        "## Entity Diagram", "", "```mermaid", "erDiagram",
        "    User \x7b", "        int id PK", "        string _more_fields", "    \x7d",
        "    Post \x7b", "        int id PK", "    \x7d",
        "    User \x7do--|| User : \"boss\"", "    User ||--o\x7b Post : \"posts\"", "```", ""] ∧
      ∃ lines own others edges, modelPage settings s user = joined "\n" lines ∧
        "## Entity Diagram" ∈ lines ∧ DrawsNeighbourhood settings s user own others edges ∧
        linesBelow "Entity Diagram" lines =
          ["```mermaid", "erDiagram"] ++ (own :: others).flatMap entityForm ++ edges.map edgeForm ++
            ["```", ""] := by
  intro settings key user s
  refine ⟨by decide +kernel, ?_⟩
  obtain ⟨lines, hpage, hheading, hdiagram⟩ := modelPage_drawsNeighbourhood settings s user
  have hdrawn := hheading.2 (Or.inl (by decide))
  obtain ⟨own, others, edges, hlines, hdraws, -⟩ := hdiagram hdrawn
  exact ⟨lines, own, others, edges, hpage, hdrawn, hdraws, hlines⟩

end Docs

end SchemaAtlas

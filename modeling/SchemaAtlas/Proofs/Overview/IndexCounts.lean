import SchemaAtlas.Proofs.Docs.BundlePages
import SchemaAtlas.Proofs.Docs.PageTables

/-!
# Counts in the overview and on the index page

The index page has one line of counts for each model and a table of counts over the whole schema.
`groupForm` and `countForm` say how both are written, with the counts that the overview shows of each
model.

Main statement: the overview and the index have the same groups, the index shows of each model what the
overview counts, and the counts over the whole schema are the sums of these (`overview_index_agree`).
-/

namespace SchemaAtlas

open Docs Markdown Text

/-! ### Written forms -/

/-- The lines of the index for one category, with a row for each model. -/
def groupForm (settings : DocSettings) (g : CategoryGroup Model) : List String :=
  ["### " ++ g.category.icon ++ " " ++ g.category.label ++ " (" ++ toString g.members.length ++ ")",
      "", "| Model | Fields | Relations | Indexes |", "|-------|--------|-----------|---------|"] ++
    g.members.map (fun m => "| [" ++ m.name ++ "](./" ++ settings.modelsDir ++ "/" ++ m.name ++
      ".md) | " ++ toString (ModelSheet.ofModel m).scalarCount ++ " | " ++
      toString (ModelSheet.ofModel m).relationCount ++ " | " ++ toString m.indexes.length ++ " |") ++
    [""]

/-- The table of the counts over the whole schema. -/
def countForm (models enumerations fields relations indexes : Nat) : List String :=
  ["| Metric | Count |", "|--------|-------|", "| Models | " ++ toString models ++ " |",
    "| Enums | " ++ toString enumerations ++ " |", "| Total Fields | " ++ toString fields ++ " |",
    "| Total Relations | " ++ toString relations ++ " |",
    "| Total Indexes | " ++ toString indexes ++ " |"]

/-- The sum of a count over the models of all groups. -/
def sumOver (groups : List (CategoryGroup Model)) (count : Model → Nat) : Nat :=
  (groups.map fun g => (g.members.map count).sum).sum

/-! ### The counts -/

theorem ModelSheet.scalarCount_ofModel (m : Model) :
    (ofModel m).scalarCount = m.scalarFields.length := by
  have hfields : (ofModel m).fields.length = m.relationFields.length + m.scalarFields.length := by
    rw [ofModel, List.length_map]
    exact List.length_eq_length_filter_add Field.isRelation
  rw [scalarCount, relationCount_ofModel, hfields, Nat.add_sub_cancel_left]

theorem total_eq_sum (models : List Model) (size : Model → Nat) :
    total models size = (models.map size).sum := by
  induction models using List.reverseRecOn with
  | nil => rfl
  | append_singleton models m ih =>
    rw [total, List.foldl_concat, ← total, ih, List.map_append, List.sum_append]
    rfl

/-- A model is in one group, so that the groups add up to the whole. -/
theorem sumOver_modelGroups (s : Schema) (count : Model → Nat) :
    sumOver (modelGroups s.models) count = (s.models.map count).sum := by
  rw [← ((sameGroups s).groups_perm.map count).sum_nat, List.map_flatMap, List.flatMap_def,
    List.sum_flatten, List.map_map]
  rfl

/-! ### The page -/

theorem rowLine_pair (first second : String) :
    rowLine [first, second] = "| " ++ first ++ " | " ++ second ++ " |" := by
  apply String.toList_inj.1
  simp [rowLine, joined_cons_cons]

theorem lines_countTable (s : Schema) :
    (countTable s).lines = countForm s.models.length s.enumerations.length
      (s.models.map fun m => (ModelSheet.ofModel m).scalarCount).sum
      (s.models.map fun m => (ModelSheet.ofModel m).relationCount).sum
      (s.models.map fun m => m.indexes.length).sum := by
  have hheader : rowLine ["Metric", "Count"] = "| Metric | Count |" ∧
      ruleLine ["Metric", "Count"] = "|--------|-------|" := by
    decide
  simp only [countTable, Table.lines, List.map_cons, List.map_nil, hheader, rowLine_pair,
    total_eq_sum, ModelSheet.scalarCount_ofModel, ModelSheet.relationCount_ofModel]
  rfl

theorem rowLine_modelRow (settings : DocSettings) (m : Model) :
    rowLine (modelRow settings m) = "| [" ++ m.name ++ "](./" ++ settings.modelsDir ++ "/" ++
      m.name ++ ".md) | " ++ toString (ModelSheet.ofModel m).scalarCount ++ " | " ++
      toString (ModelSheet.ofModel m).relationCount ++ " | " ++ toString m.indexes.length ++ " |" := by
  rw [ModelSheet.scalarCount_ofModel, ModelSheet.relationCount_ofModel]
  apply String.toList_inj.1
  simp [rowLine, modelRow, joined_cons_cons, link, pagePath]

theorem groupLines_eq_groupForm (settings : DocSettings) (g : CategoryGroup Model) :
    groupLines settings g = groupForm settings g := by
  have hheader : rowLine ["Model", "Fields", "Relations", "Indexes"] =
        "| Model | Fields | Relations | Indexes |" ∧
      ruleLine ["Model", "Fields", "Relations", "Indexes"] =
        "|-------|--------|-----------|---------|" := by
    decide
  have htitle : "### " ++ categoryTitle g.category ++ " (" ++ toString g.members.length ++ ")" =
      "### " ++ g.category.icon ++ " " ++ g.category.label ++ " (" ++ toString g.members.length ++
        ")" := by
    simp only [categoryTitle, String.append_assoc]
  have hrows : (g.members.map (modelRow settings)).map rowLine = g.members.map fun m =>
      rowLine (modelRow settings m) := List.map_map
  rw [groupLines, groupForm, htitle, groupTable, Table.lines, hheader.1, hheader.2, hrows]
  simp only [rowLine_modelRow]
  rfl

/-- The index page ends with the enumerations. -/
theorem exists_indexPage_eq {settings : DocSettings} {origin : Origin} {s : Schema} {page : String}
    (h : indexPage settings origin s = .ok page) : ∃ enumerations : List String,
      page = joined "\n" (["# Database Schema Documentation", ""] ++ originLines origin ++
        ["## Overview", ""] ++ (countTable s).lines ++ ["", "## Models by Category", ""] ++
        (modelGroups s.models).flatMap (groupLines settings) ++ ["## Enums", ""] ++
        enumerations) := by
  cases henumerations : s.enumerations.mapM enumerationLines with
  | error fault => simp [indexPage, henumerations, bind, Except.bind] at h
  | ok parts =>
    rw [indexPage_eq_ok henumerations] at h
    exact ⟨parts.flatten, (Except.ok.inj h).symm⟩

/-! ### Both together -/

/-- The overview and the index have the same groups, which are what the models give when they are
gathered one after another under the labels of their categories.  There is an index page unless an
enumeration has a blank value.  The page shows of each model what the overview counts, and its counts
over the whole schema are the sums over all groups. -/
theorem overview_index_agree (settings : DocSettings) (origin : Origin) (s : Schema) :
    SameGroups s.models (Overview.ofSchema s).groups (modelGroups s.models) ∧
      (Overview.ofSchema s).groups.map (fun g => (g.category.label, g.members)) =
        inTextOrder Prod.fst
          (gathered (fun sheet => sheet.category.label) (s.models.map ModelSheet.ofModel)) ∧
      (modelGroups s.models).map (fun g => (g.category.label, g.members)) =
        (inTextOrder Prod.fst (gathered (fun m => (Category.ofName m.name).label) s.models)).map
          (fun g => (g.1, inTextOrder Model.name g.2)) ∧
      ((∃ page, indexPage settings origin s = .ok page) ↔
        ∀ e ∈ s.enumerations, ∃ members, e.members = .ok members) ∧
      ∀ page, indexPage settings origin s = .ok page → ∃ enumerations : List String,
        page = joined "\n" (["# Database Schema Documentation", ""] ++ originLines origin ++
          ["## Overview", ""] ++
          countForm (sumOver (modelGroups s.models) fun _ => 1) s.enumerations.length
            (sumOver (modelGroups s.models) fun m => (ModelSheet.ofModel m).scalarCount)
            (sumOver (modelGroups s.models) fun m => (ModelSheet.ofModel m).relationCount)
            (sumOver (modelGroups s.models) fun m => m.indexes.length) ++
          ["", "## Models by Category", ""] ++
          (modelGroups s.models).flatMap (groupForm settings) ++ ["## Enums", ""] ++
          enumerations) := by
  refine ⟨sameGroups s, map_groupsBy _ _, ?_, exists_indexPage_iff, fun page hpage => ?_⟩
  · have hlabel : (fun m : Model => (Category.ofName m.name).label) =
        fun m => m.category.label := rfl
    rw [hlabel, ← map_groupsBy, modelGroups, byCategory, List.map_map, List.map_map]
    rfl
  · obtain ⟨enumerations, rfl⟩ := exists_indexPage_eq hpage
    refine ⟨enumerations, ?_⟩
    have hgroups : groupForm settings = groupLines settings :=
      funext fun g => (groupLines_eq_groupForm settings g).symm
    have hmodels : (s.models.map fun _ => 1).sum = s.models.length := by simp
    rw [lines_countTable, sumOver_modelGroups, sumOver_modelGroups, sumOver_modelGroups,
      sumOver_modelGroups, hmodels, hgroups]

/-- The index of three models in two categories and an enumeration. -/
theorem overview_index_agree_of_three_models :
    let key : Field := { name := "id", baseType := "Int", kind := .scalar, isId := true }
    let s : Schema := {
      models := [
        { name := "Post", fields := [key,
          { name := "tag", baseType := "Tag", kind := .relation }], indexes := [⟨["tag"], "tag"⟩] },
        { name := "User", fields := [key,
          { name := "posts", baseType := "Post", kind := .relation, isList := true }] },
        { name := "Tag", fields := [key] }]
      enumerations := [{ name := "Role", values := ["ADMIN", "USER"] }] }
    indexPage {} {} s = .ok ("\n".intercalate [
        "# Database Schema Documentation", "", "> Auto-generated from `prisma/schema.prisma`", "",
        "## Overview", "", "| Metric | Count |", "|--------|-------|", "| Models | 3 |",
        "| Enums | 1 |", "| Total Fields | 3 |", "| Total Relations | 2 |", "| Total Indexes | 1 |",
        "", "## Models by Category", "",
        "### 🔐 Auth (1)", "", "| Model | Fields | Relations | Indexes |",
        "|-------|--------|-----------|---------|", "| [User](./models/User.md) | 1 | 1 | 0 |", "",
        "### 📁 Other (2)", "", "| Model | Fields | Relations | Indexes |",
        "|-------|--------|-----------|---------|", "| [Post](./models/Post.md) | 1 | 1 | 1 |",
        "| [Tag](./models/Tag.md) | 1 | 0 | 0 |", "",
        "## Enums", "", "### Role", "", "`ADMIN` | `USER`", ""]) ∧
      SameGroups s.models (Overview.ofSchema s).groups (modelGroups s.models) ∧
      ∃ page, indexPage {} {} s = .ok page := by
  intro key s
  have hcategories : (s.models.map Model.category).eraseDups.Perm [.auth, .other] ∧
      ∀ c ∈ [Category.auth, .other],
        (s.models.filter fun m => m.category = c).Pairwise fun m m' => m.name ≤ m'.name := by
    decide +kernel
  have hgroups : modelGroups s.models =
      [Category.auth, .other].map (groupOf Model.category s.models) :=
    modelGroups_eq_of_pairwise (by decide) hcategories.1 hcategories.2
  have hmembers : ∀ e ∈ s.enumerations, ∃ members, e.members = .ok members := by
    intro e he
    obtain rfl := List.mem_singleton.1 he
    exact ⟨["ADMIN", "USER"], by decide⟩
  obtain ⟨hsame, -, -, hexists, -⟩ := overview_index_agree {} {} s
  refine ⟨?_, hsame, hexists.2 hmembers⟩
  rw [indexPage, hgroups]
  decide +kernel

end SchemaAtlas

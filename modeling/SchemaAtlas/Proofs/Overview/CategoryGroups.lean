import Mathlib.Algebra.GroupWithZero.Nat
import Mathlib.Data.List.Perm.Basic
import SchemaAtlas.Docs.IndexPage
import SchemaAtlas.Overview.Basic
import SchemaAtlas.Proofs.Schema.GatheredGroups

/-!
# Categories in the overview and in the index

The overview and the index page group the models of a schema by category, each for itself.
`SameGroups` says that the groups are the same and hold every model once, where the index sorts each
group by name.

Main statement: the groups of the overview and of the index are the same (`sameGroups`).
-/

namespace SchemaAtlas

open Docs Markdown

/-! ### The groups -/

/-- Groups of presented models and groups of models under the same labels in ascending order.  They
hold the given models, each in the group of its category, and where the former have the order of
declaration, the latter are sorted by name. -/
structure SameGroups (models : List Model) (sheets : List (CategoryGroup ModelSheet))
    (groups : List (CategoryGroup Model)) : Prop where
  labels : sheets.map (fun g => g.category.label) = groups.map fun g => g.category.label
  ascending : (groups.map fun g => g.category.label).Pairwise (· < ·)
  sheets_perm : (sheets.flatMap CategoryGroup.members).Perm (models.map .ofModel)
  groups_perm : (groups.flatMap CategoryGroup.members).Perm models
  declared : ∀ g ∈ sheets, g.members =
    (models.filter fun m => Category.ofName m.name = g.category).map .ofModel
  sorted : ∀ g ∈ groups,
    IsStableOrder Model.name (models.filter fun m => Category.ofName m.name = g.category) g.members

section

variable {α β : Type} (categoryOf : β → Category) (f : α → β) (items : List α)

theorem occurringCategories_map :
    occurringCategories categoryOf (items.map f) =
      occurringCategories (fun item => categoryOf (f item)) items := by
  simp only [occurringCategories, List.any_map, Function.comp_def]

theorem groupsBy_map :
    groupsBy categoryOf (items.map f) =
      (groupsBy (fun item => categoryOf (f item)) items).map fun g =>
        ⟨g.category, g.members.map f⟩ := by
  rw [groupsBy_eq_map, groupsBy_eq_map, occurringCategories_map, List.map_map]
  refine List.map_congr_left fun category _ => ?_
  simp only [groupOf, Function.comp_def, List.filter_map]

end

theorem flatMap_members_groupsBy_perm {α : Type} (categoryOf : α → Category) (items : List α) :
    ((groupsBy categoryOf items).flatMap CategoryGroup.members).Perm items := by
  rw [flatMap_groupsBy fun _ => rfl]
  exact flatMap_inLabelOrder_perm categoryOf items

section

variable (s : Schema)

theorem ModelSheet.category_ofModel (m : Model) : (ofModel m).category = m.category := by
  rw [ofModel]

theorem groups_ofSchema :
    (Overview.ofSchema s).groups =
      (byCategory s.models).map fun g => ⟨g.category, g.members.map .ofModel⟩ := by
  rw [Overview.ofSchema, groupsBy_map]
  simp only [ModelSheet.category_ofModel]
  rfl

theorem members_of_mem_byCategory {g : CategoryGroup Model} (hg : g ∈ byCategory s.models) :
    g.members = s.models.filter fun m => Category.ofName m.name = g.category := by
  rw [byCategory, groupsBy_eq_map] at hg
  obtain ⟨category, -, rfl⟩ := List.mem_map.1 hg
  rfl

theorem sameGroups : SameGroups s.models (Overview.ofSchema s).groups (modelGroups s.models) where
  labels := by
    rw [groups_ofSchema, modelGroups, List.map_map, List.map_map]
    rfl
  ascending := by
    rw [modelGroups, byCategory, groupsBy_eq_map, List.map_map, List.map_map]
    exact List.pairwise_map.2 (pairwise_occurringCategories _ _)
  sheets_perm := flatMap_members_groupsBy_perm ModelSheet.category (s.models.map .ofModel)
  groups_perm := by
    rw [modelGroups, List.flatMap_map]
    refine (List.Perm.flatMap_left _ fun g _ => inTextOrder_perm Model.name g.members).trans ?_
    exact flatMap_members_groupsBy_perm _ _
  declared := by
    intro g hg
    rw [groups_ofSchema] at hg
    obtain ⟨group, hgroup, rfl⟩ := List.mem_map.1 hg
    rw [members_of_mem_byCategory s hgroup]
  sorted := by
    intro g hg
    obtain ⟨group, hgroup, rfl⟩ := List.mem_map.1 hg
    rw [← members_of_mem_byCategory s hgroup]
    exact isStableOrder_inTextOrder Model.name group.members

end

/-- If the models of each category are declared in the order of their names, the index has them as
they are declared. -/
theorem modelGroups_eq_of_pairwise {models : List Model} {categories : List Category}
    (hascending : categories.Pairwise fun c d => c.label < d.label)
    (hperm : (models.map Model.category).eraseDups.Perm categories)
    (hnames : ∀ c ∈ categories,
      (models.filter fun m => m.category = c).Pairwise fun m m' => m.name ≤ m'.name) :
    modelGroups models = categories.map (groupOf Model.category models) := by
  rw [modelGroups, byCategory, groupsBy_eq_map_of_pairwise _ _ hascending hperm, List.map_map]
  refine List.map_congr_left fun c hc => ?_
  exact congrArg (CategoryGroup.mk c) (inTextOrder_eq_self (hnames c hc))

end SchemaAtlas

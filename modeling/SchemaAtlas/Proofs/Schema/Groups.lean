import Mathlib.Data.List.Perm.Lattice
import SchemaAtlas.Schema.Grouping

/-!
# Groups by category

The groups of a list are one for each category that occurs (`groupsBy_eq_filter`), so whatever is
collected from all groups may be collected from all categories (`flatMap_groupsBy`).  Together the
categories hold every item once (`flatMap_inLabelOrder_perm`).
-/

namespace SchemaAtlas

variable {α β : Type}

/-- The items of one category, perhaps none. -/
def groupOf (categoryOf : α → Category) (items : List α) (category : Category) : CategoryGroup α :=
  ⟨category, items.filter fun item => categoryOf item = category⟩

theorem Category.perm_inLabelOrder : inLabelOrder.Perm all :=
  List.mergeSort_perm _ _

theorem Category.nodup_inLabelOrder : inLabelOrder.Nodup :=
  perm_inLabelOrder.nodup_iff.2 (by decide)

theorem Category.mem_inLabelOrder (c : Category) : c ∈ inLabelOrder :=
  perm_inLabelOrder.mem_iff.2 (mem_all c)

theorem groupsBy_eq_filter (categoryOf : α → Category) (items : List α) :
    groupsBy categoryOf items =
      (Category.inLabelOrder.map (groupOf categoryOf items)).filter fun g => !g.members.isEmpty := by
  rw [List.filter_map, ← List.filterMap_eq_map, List.filterMap_filter]
  refine List.filterMap_congr fun category _ => ?_
  have hmembers : ((items.map fun item => (categoryOf item, item)).filter
      fun t => t.1 == category).map Prod.snd = (groupOf categoryOf items category).members := by
    rw [List.filter_map, List.map_map]
    simp only [groupOf, Function.comp_def, List.map_id', beq_eq_decide]
  rw [hmembers]
  show _ = if !(groupOf categoryOf items category).members.isEmpty then
    some (CategoryGroup.mk category (groupOf categoryOf items category).members) else none
  cases (groupOf categoryOf items category).members <;> rfl

theorem flatMap_filter_of_eq_nil {keep : α → Bool} {collect : α → List β}
    (h : ∀ a, keep a = false → collect a = []) (items : List α) :
    (items.filter keep).flatMap collect = items.flatMap collect := by
  induction items with
  | nil => rfl
  | cons a rest ih =>
    cases hkeep : keep a with
    | true => simp [hkeep, ih]
    | false => simp [hkeep, ih, h a hkeep]

/-- Groups without members may be left out where nothing is collected from them. -/
theorem flatMap_groupsBy {categoryOf : α → Category} {items : List α}
    {collect : CategoryGroup α → List β} (hempty : ∀ c, collect ⟨c, []⟩ = []) :
    (groupsBy categoryOf items).flatMap collect =
      Category.inLabelOrder.flatMap fun c => collect (groupOf categoryOf items c) := by
  have hnone : ∀ g : CategoryGroup α, (!g.members.isEmpty) = false → collect g = [] := by
    rintro ⟨category, members⟩ h
    obtain rfl : members = [] := by simpa using h
    exact hempty category
  rw [groupsBy_eq_filter, flatMap_filter_of_eq_nil hnone, List.flatMap_map]

/-- Items that are collected key by key are the items in another order, if every key is among them
once. -/
theorem flatMap_filter_perm {κ : Type} [DecidableEq κ] {key : α → κ} {keys : List κ}
    (hkeys : keys.Nodup) {items : List α} (hitems : ∀ item ∈ items, key item ∈ keys) :
    (keys.flatMap fun k => items.filter fun item => key item = k).Perm items := by
  induction keys generalizing items with
  | nil =>
    have hnil : items = [] := List.eq_nil_iff_forall_not_mem.2 fun item h => by
      simpa using hitems item h
    rw [hnil]
    rfl
  | cons k keys ih =>
    obtain ⟨hk, hkeys⟩ := List.nodup_cons.1 hkeys
    let others := items.filter fun item => !decide (key item = k)
    have hothers : ∀ item ∈ others, key item ∈ keys := by
      intro item h
      obtain ⟨hitem, hne⟩ := List.mem_filter.1 h
      exact List.mem_of_ne_of_mem (by simpa using hne) (hitems item hitem)
    have hrest : (keys.flatMap fun k' => items.filter fun item => key item = k') =
        keys.flatMap fun k' => others.filter fun item => key item = k' := by
      refine List.flatMap_congr fun k' hk' => ?_
      have hne : k' ≠ k := fun heq => hk (heq ▸ hk')
      rw [List.filter_filter]
      refine List.filter_congr fun item _ => ?_
      by_cases heq : key item = k' <;> simp [heq, hne]
    rw [List.flatMap_cons, hrest]
    exact ((ih hkeys hothers).append_left _).trans (List.filter_append_perm _ items)

theorem flatMap_inLabelOrder_perm (categoryOf : α → Category) (items : List α) :
    (Category.inLabelOrder.flatMap fun c =>
      items.filter fun item => categoryOf item = c).Perm items :=
  flatMap_filter_perm Category.nodup_inLabelOrder fun _ _ => Category.mem_inLabelOrder _

end SchemaAtlas

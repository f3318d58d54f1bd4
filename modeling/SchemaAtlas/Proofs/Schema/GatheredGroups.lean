import SchemaAtlas.Proofs.Keyed
import SchemaAtlas.Proofs.Schema.TextOrder

/-!
# Groups that are gathered item by item

`gathered` puts the items one after another under their labels, in the order in which the labels are
first met.  Sorted by the labels, that gives the groups by category (`map_groupsBy`), of which there
is one for every category that occurs, under strictly ascending labels
(`pairwise_occurringCategories`).
-/

namespace SchemaAtlas

variable {α : Type}

/-! ### Entries under distinct keys -/

namespace Keyed

variable {κ β : Type} [DecidableEq κ]

theorem get?_map_keys (keys : List κ) (value : κ → β) (key : κ) :
    get? (keys.map fun k => (k, value k)) key = if key ∈ keys then some (value key) else none := by
  induction keys with
  | nil => rfl
  | cons k keys ih =>
    rw [List.map_cons, get?_cons, ih]
    by_cases hk : k = key
    · simp [hk]
    · simp [hk, Ne.symm hk]

theorem put_map_keys {keys : List κ} (hnodup : keys.Nodup) (value : κ → β) (key : κ) (b : β) :
    put (keys.map fun k => (k, value k)) key b =
      (if key ∈ keys then keys else keys ++ [key]).map fun k =>
        (k, if k = key then b else value k) := by
  induction keys with
  | nil => simp [put]
  | cons k keys ih =>
    obtain ⟨hk, hnodup⟩ := List.nodup_cons.1 hnodup
    by_cases heq : k = key
    · subst heq
      have hother : ∀ k' ∈ keys, (k', value k') = (k', if k' = k then b else value k') := by
        intro k' hk'
        rw [if_neg (ne_of_mem_of_not_mem hk' hk)]
      simp [put, List.map_congr_left hother]
    · have hput : put ((k :: keys).map fun k => (k, value k)) key b =
          (k, value k) :: put (keys.map fun k => (k, value k)) key b := by
        simp [put, heq]
      rw [hput, ih hnodup]
      by_cases hmem : key ∈ keys <;> simp [hmem, heq, Ne.symm heq]

end Keyed

/-! ### Gathering -/

section

variable (labelOf : α → String)

/-- The groups with one more item, under its label. -/
def gather (groups : Keyed (List α)) (item : α) : Keyed (List α) :=
  groups.put (labelOf item) ((groups.get? (labelOf item)).getD [] ++ [item])

/-- The items under their labels, put there one after another. -/
def gathered (items : List α) : Keyed (List α) :=
  items.foldl (gather labelOf) []

/-- The groups of some items, under their labels in the order in which these are first met. -/
def firstMet (items : List α) : Keyed (List α) :=
  (items.map labelOf).eraseDups.map fun label =>
    (label, items.filter fun item => labelOf item = label)

theorem getD_get?_firstMet (items : List α) (label : String) :
    ((firstMet labelOf items).get? label).getD [] =
      items.filter fun item => labelOf item = label := by
  rw [firstMet, Keyed.get?_map_keys]
  split
  · rfl
  · refine (List.filter_eq_nil_iff.2 fun item hitem hlabel => ?_).symm
    have hmem : label ∈ (items.map labelOf).eraseDups :=
      List.mem_eraseDups.2 (List.mem_map.2 ⟨item, hitem, of_decide_eq_true hlabel⟩)
    exact absurd hmem ‹_›

theorem gather_firstMet (items : List α) (item : α) :
    gather labelOf (firstMet labelOf items) item = firstMet labelOf (items ++ [item]) := by
  rw [gather, getD_get?_firstMet]
  unfold firstMet
  rw [Keyed.put_map_keys (nodup_eraseDups _), List.map_append, List.map_singleton, eraseDups_concat]
  simp only [List.mem_eraseDups]
  refine List.map_congr_left fun label _ => ?_
  by_cases hlabel : label = labelOf item
  · subst hlabel
    simp
  · simp [hlabel, Ne.symm hlabel]

theorem gathered_eq_firstMet (items : List α) : gathered labelOf items = firstMet labelOf items := by
  induction items using List.reverseRecOn with
  | nil => rfl
  | append_singleton items item ih =>
    rw [gathered, List.foldl_concat, ← gathered, ih, gather_firstMet]

end

/-! ### Categories that occur -/

/-- The categories of some items, in the order of the labels. -/
def occurringCategories (categoryOf : α → Category) (items : List α) : List Category :=
  Category.inLabelOrder.filter fun category => items.any fun item => categoryOf item = category

theorem Category.pairwise_inLabelOrder : inLabelOrder.Pairwise fun c d => c.label < d.label := by
  refine ((pairwise_inTextOrder label all).and nodup_inLabelOrder).imp ?_
  rintro c d ⟨hle, hne⟩
  exact String.not_le.1 fun hge => hne (label_injective (String.le_antisymm hle hge))

section

variable (categoryOf : α → Category) (items : List α)

theorem pairwise_occurringCategories :
    (occurringCategories categoryOf items).Pairwise fun c d => c.label < d.label :=
  Category.pairwise_inLabelOrder.filter _

theorem mem_occurringCategories {category : Category} :
    category ∈ occurringCategories categoryOf items ↔
      ∃ item ∈ items, categoryOf item = category := by
  simp [occurringCategories, Category.mem_inLabelOrder]

theorem groupsBy_eq_map :
    groupsBy categoryOf items =
      (occurringCategories categoryOf items).map (groupOf categoryOf items) := by
  rw [groupsBy_eq_filter, List.filter_map, occurringCategories]
  refine congrArg _ (List.filter_congr fun category _ => ?_)
  rw [Bool.eq_iff_iff]
  simp [groupOf]

/-- The label of a category with the items of the category. -/
def labelledGroup (category : Category) : String × List α :=
  (category.label, items.filter fun item => categoryOf item = category)

theorem gathered_eq_map :
    gathered (fun item => (categoryOf item).label) items =
      (items.map categoryOf).eraseDups.map (labelledGroup categoryOf items) := by
  have hlabels : items.map (fun item => (categoryOf item).label) =
      (items.map categoryOf).map Category.label := by
    rw [List.map_map]
    rfl
  rw [gathered_eq_firstMet, firstMet, hlabels, eraseDups_map fun _ _ => Category.label_injective,
    List.map_map]
  refine List.map_congr_left fun category _ => Prod.ext rfl ?_
  refine List.filter_congr fun item _ => ?_
  rw [decide_eq_decide]
  exact ⟨fun h => Category.label_injective h, fun h => h ▸ rfl⟩

theorem nodup_occurringCategories : (occurringCategories categoryOf items).Nodup :=
  Category.nodup_inLabelOrder.filter _

theorem occurringCategories_perm :
    (occurringCategories categoryOf items).Perm (items.map categoryOf).eraseDups := by
  refine (List.perm_ext_iff_of_nodup (nodup_occurringCategories _ _) (nodup_eraseDups _)).2 ?_
  intro category
  rw [mem_occurringCategories, List.mem_eraseDups, List.mem_map]

/-- The groups may be read off any list of the categories that occur, if their labels ascend. -/
theorem groupsBy_eq_map_of_pairwise {categories : List Category}
    (hascending : categories.Pairwise fun c d => c.label < d.label)
    (hperm : (items.map categoryOf).eraseDups.Perm categories) :
    groupsBy categoryOf items = categories.map (groupOf categoryOf items) := by
  have heq : occurringCategories categoryOf items = categories := by
    refine List.Perm.eq_of_pairwise (fun c d _ _ hcd hdc => ?_)
      (pairwise_occurringCategories categoryOf items) hascending
      ((occurringCategories_perm categoryOf items).trans hperm)
    exact absurd hcd (String.lt_asymm hdc)
  rw [groupsBy_eq_map, heq]

/-- The groups by category are what is gathered under the labels, sorted by these. -/
theorem map_groupsBy :
    (groupsBy categoryOf items).map (fun g => (g.category.label, g.members)) =
      inTextOrder Prod.fst (gathered (fun item => (categoryOf item).label) items) := by
  let entries := (occurringCategories categoryOf items).map (labelledGroup categoryOf items)
  have hentries : (groupsBy categoryOf items).map (fun g => (g.category.label, g.members)) =
      entries := by
    rw [groupsBy_eq_map, List.map_map]
    rfl
  have hperm : entries.Perm (gathered (fun item => (categoryOf item).label) items) := by
    rw [gathered_eq_map]
    exact (occurringCategories_perm categoryOf items).map _
  have hascending : entries.Pairwise fun a b => a.1 ≤ b.1 := by
    refine List.pairwise_map.2 ((pairwise_occurringCategories categoryOf items).imp fun hlt => ?_)
    exact String.not_lt.1 (String.lt_asymm hlt)
  rw [hentries]
  refine List.Perm.eq_of_pairwise (fun a b ha hb hab hba => ?_) hascending
    (pairwise_inTextOrder _ _) (hperm.trans (inTextOrder_perm _ _).symm)
  -- two entries under one label are those of one category
  have hb := (hperm.trans (inTextOrder_perm _ _).symm).mem_iff.2 hb
  obtain ⟨c, -, rfl⟩ := List.mem_map.1 ha
  obtain ⟨d, -, rfl⟩ := List.mem_map.1 hb
  rw [Category.label_injective (String.le_antisymm hab hba)]

end

end SchemaAtlas

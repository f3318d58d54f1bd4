import SchemaAtlas.Proofs.Docs.BundlePages

/-!
# Pages of selected models

A selection keeps or drops all models of one name together (`Selection.models_eq_filter`,
`Selection.selects_congr`), so the last model of a name that is kept is the last of all models of
that name, and its page is the one that it has without a selection.

Main statement: a bundle of selected pages is a part of the whole bundle, with the same texts under
the same paths, and holds the index, the diagram page and the pages of the selected models
(`bundle_selected`).
-/

namespace SchemaAtlas.Docs

open Text

/-! ### What a selection asks for -/

/-- The selection asks for the model: by its category if one is given, and else by its name, unless
no names are given.  Blank names ask for nothing, and letter case does not matter. -/
def Selection.Selects (selection : Selection) (m : Model) : Prop :=
  if textOrEmpty selection.category = "" then
    selection.names = [] ∨
      ∃ name ∈ selection.names, trimmed name ≠ "" ∧ lower m.name = lower (trimmed name)
  else lower m.category.label = lower (textOrEmpty selection.category)

instance (selection : Selection) : DecidablePred selection.Selects :=
  fun _ => instDecidableIte

theorem Selection.mem_wanted {selection : Selection} {wanted : String} :
    wanted ∈ selection.wanted ↔
      ∃ name ∈ selection.names, trimmed name ≠ "" ∧ wanted = lower (trimmed name) := by
  simp only [Selection.wanted, List.mem_map, List.mem_filter]
  constructor
  · rintro ⟨_, ⟨⟨name, hname, rfl⟩, hblank⟩, rfl⟩
    exact ⟨name, hname, by simpa using hblank, rfl⟩
  · rintro ⟨name, hname, hblank, rfl⟩
    exact ⟨_, ⟨⟨name, hname, rfl⟩, by simpa using hblank⟩, rfl⟩

theorem Selection.models_eq_filter (selection : Selection) (s : Schema) :
    selection.models s = s.models.filter fun m => selection.Selects m := by
  unfold Selection.models
  by_cases hlabel : textOrEmpty selection.category = ""
  · rw [if_neg (by simp [hlabel])]
    by_cases hnames : selection.names = []
    · rw [if_neg (by simp [hnames])]
      refine (List.filter_eq_self.2 fun m _ => decide_eq_true ?_).symm
      rw [Selects, if_pos hlabel]
      exact .inl hnames
    · rw [if_pos (by simp [hnames])]
      refine List.filter_congr fun m _ => ?_
      rw [Bool.eq_iff_iff, List.contains_iff_mem, mem_wanted, decide_eq_true_iff, Selects,
        if_pos hlabel, or_iff_right hnames]
  · rw [if_pos (by simp [hlabel])]
    refine List.filter_congr fun m _ => ?_
    rw [Bool.eq_iff_iff, beq_iff_eq, decide_eq_true_iff, Selects, if_neg hlabel]

/-- Models of one name are selected together. -/
theorem Selection.selects_congr (selection : Selection) {m m' : Model} (h : m.name = m'.name) :
    selection.Selects m ↔ selection.Selects m' := by
  rw [Selects, Selects, Model.category, Model.category, h]

theorem Selection.models_default (s : Schema) : Selection.models {} s = s.models := rfl

/-! ### Documents under their paths -/

section

variable {settings : DocSettings} {selection : Selection} {s : Schema}

/-- A page that the selection keeps is the page without a selection. -/
theorem get?_filled_of_selection {index path text : String}
    (h : (filled settings selection s index).files.get? path = some text) :
    (filled settings {} s index).files.get? path = some text := by
  rw [get?_filled_path] at h ⊢
  split at h
  · rwa [if_pos ‹_›]
  · rw [if_neg ‹_›]
    split at h
    · rwa [if_pos ‹_›]
    · rw [if_neg ‹_›, Selection.models_default, ← h]
      obtain ⟨m, hfind, -⟩ := Option.map_eq_some_iff.1 h
      rw [Selection.models_eq_filter, ← List.filter_reverse] at hfind ⊢
      -- the models with this path have one name, and the selection keeps one of them
      have hselected : selection.Selects m :=
        of_decide_eq_true (List.mem_filter.1 (List.mem_of_find?_eq_some hfind)).2
      have hpath : pagePath settings m.name = path := by simpa using List.find?_some hfind
      have hkept : ∀ m' : Model, pagePath settings m'.name == path →
          decide (selection.Selects m') := by
        intro m' hm'
        have hname : m.name = m'.name :=
          pagePath_inj.1 (hpath.trans (beq_iff_eq.1 hm').symm)
        exact decide_eq_true ((selection.selects_congr hname).1 hselected)
      rw [find?_filter_of_imp hkept]

theorem isSome_get?_filled_pagePath (index name : String) :
    ((filled settings selection s index).files.get? (pagePath settings name)).isSome ↔
      ∃ m ∈ selection.models s, m.name = name := by
  rw [get?_filled, Option.isSome_map, List.find?_isSome]
  simp only [List.mem_reverse, beq_iff_eq]

end

/-! ### Part and whole -/

/-- The first bundle holds a part of the documents of the second, unchanged: the index, the diagram
page, and the pages of the names that are selected. -/
structure Bundle.IsSelectionOf (settings : DocSettings) (selection : Selection) (s : Schema)
    (part whole : Bundle) : Prop where
  unchanged : ∀ path ∈ part.files.keys,
    path ∈ whole.files.keys ∧ part.files.get? path = whole.files.get? path
  index_mem : indexPath ∈ part.files.keys
  diagram_mem : diagramPath ∈ part.files.keys
  page_mem_iff : ∀ name, pagePath settings name ∈ part.files.keys ↔
    ∃ m ∈ selection.models s, m.name = name

theorem isSelectionOf_filled (settings : DocSettings) (selection : Selection) (s : Schema)
    (index : String) :
    Bundle.IsSelectionOf settings selection s (filled settings selection s index)
      (filled settings {} s index) where
  unchanged := by
    intro path hpath
    obtain ⟨text, htext⟩ := Option.isSome_iff_exists.1 (Keyed.isSome_get?_iff.2 hpath)
    have hwhole := get?_filled_of_selection htext
    refine ⟨Keyed.isSome_get?_iff.1 ?_, htext.trans hwhole.symm⟩
    rw [hwhole]
    rfl
  index_mem := by
    rw [← Keyed.isSome_get?_iff, get?_filled_path, if_neg (by decide), if_pos rfl]
    rfl
  diagram_mem := by
    rw [← Keyed.isSome_get?_iff, get?_filled_path, if_pos rfl]
    rfl
  page_mem_iff := by
    intro name
    rw [← Keyed.isSome_get?_iff, isSome_get?_filled_pagePath]

/-- Whatever is selected, the documentation is a part of the documentation of the whole schema with
the same texts, or both fail alike.  The pages of the selected models are in it, where a model is
selected by its category or its name, and models that are selected keep their order and number. -/
theorem bundle_selected (settings : DocSettings) (selection : Selection) (origin : Origin)
    (s : Schema) :
    selection.models s = s.models.filter (fun m => selection.Selects m) ∧
      ((∃ fault, bundle settings selection origin s = .error fault ∧
          bundle settings {} origin s = .error fault) ∨
        ∃ part whole, bundle settings selection origin s = .ok part ∧
          bundle settings {} origin s = .ok whole ∧
          Bundle.IsSelectionOf settings selection s part whole) := by
  refine ⟨selection.models_eq_filter s, ?_⟩
  cases h : indexPage settings origin s with
  | error fault => exact .inl ⟨fault, bundle_eq_error h, bundle_eq_error h⟩
  | ok index =>
    exact .inr ⟨_, _, bundle_eq_ok h, bundle_eq_ok h,
      isSelectionOf_filled settings selection s index⟩

/-- A blank name asks for nothing, not even for a model without a name, and an empty label is no
category. -/
theorem selection_ignores_blank :
    let s : Schema := { models := [{ name := "" }, { name := "A" }] }
    let named : Selection := { names := ["A", " "] }
    let labelled : Selection := { category := some "" }
    (∃ name ∈ named.names, trimmed name ≠ "") ∧
      ¬ (∀ m ∈ s.models,
        (m ∈ named.models s ↔ ∃ name ∈ named.names, lower m.name = lower (trimmed name))) ∧
      ¬ (∀ m ∈ s.models, (m ∈ labelled.models s ↔ lower m.category.label = lower "")) := by
  decide +kernel

end SchemaAtlas.Docs

import SchemaAtlas.Docs.Bundle
import SchemaAtlas.Proofs.Keyed
import SchemaAtlas.Proofs.Schema.EnumerationValues

/-!
# The pages of a bundle

The paths of two model pages are equal only if the names of the models are (`pagePath_inj`), and
neither the index nor the diagram page is at such a path.  So a bundle holds one page for every
name, and of several models of one name the last has the page (`get?_filled`), while the schema's
look-up finds the first.

Main statement: there is documentation of every schema that has been read, and its pages are those
of the models that the look-up finds exactly if no two models have the same name
(`bundle_followsLookup_iff`).
-/

namespace SchemaAtlas.Docs

open Text

/-- The last model of the given name. -/
def lastModel? (s : Schema) (name : String) : Option Model :=
  s.models.reverse.find? fun m => m.name == name

/-- Every name has the page of the model that the schema finds under it, no page is listed twice,
and the documents are the listed pages, the index and the diagram page. -/
structure Bundle.FollowsLookup (settings : DocSettings) (s : Schema) (b : Bundle) : Prop where
  page : ∀ name ∈ s.modelNames, ∃ m, s.model? name = some m ∧
    b.files.get? (pagePath settings name) = some (modelPage settings s m)
  nodup_modelPages : b.modelPages.Nodup
  length_files : b.files.length = b.modelPages.length + 2

/-! ### Paths -/

theorem pagePath_inj {settings : DocSettings} {name name' : String} :
    pagePath settings name = pagePath settings name' ↔ name = name' := by
  rw [pagePath, pagePath, String.append_left_inj, String.append_right_inj]

theorem pagePath_injective (settings : DocSettings) : (pagePath settings).Injective :=
  fun _ _ => pagePath_inj.1

/-- The path of a model page has a directory, and the other two documents are in none. -/
theorem pagePath_notMem (settings : DocSettings) (name : String) :
    pagePath settings name ∉ [indexPath, diagramPath] := by
  have hslash : '/' ∈ (pagePath settings name).toList := by simp [pagePath]
  have hplain : ∀ path ∈ [indexPath, diagramPath], '/' ∉ path.toList := by decide
  exact fun h => hplain _ h hslash

/-! ### Documents -/

section

variable {settings : DocSettings} {selection : Selection} {origin : Origin} {s : Schema}

/-- The documents of a bundle in the order in which they are put into it. -/
def documents (settings : DocSettings) (selection : Selection) (s : Schema) (index : String) :
    List (String × String) :=
  modelPages settings s (selection.models s) ++
    [(indexPath, index), (diagramPath, diagramPage settings s)]

/-- The bundle with the given index page. -/
def filled (settings : DocSettings) (selection : Selection) (s : Schema) (index : String) :
    Bundle where
  files := .ofList (documents settings selection s index)
  modelPages := (selection.models s).map fun m => pagePath settings m.name

theorem bundle_eq_ok {index : String} (h : indexPage settings origin s = .ok index) :
    bundle settings selection origin s = .ok (filled settings selection s index) := by
  rw [bundle, h, filled, documents, modelPages]
  simp only [bind, Except.bind, pure, Except.pure, List.map_map]
  rfl

theorem bundle_eq_error {fault : ValueFault} (h : indexPage settings origin s = .error fault) :
    bundle settings selection origin s = .error fault := by
  rw [bundle, h]
  rfl

theorem get?_modelPages {models : List Model} {path : String} :
    Keyed.get? (modelPages settings s models) path =
      (models.find? fun m => pagePath settings m.name == path).map (modelPage settings s) := by
  simp only [Keyed.get?, modelPages, List.find?_map, Option.map_map, Function.comp_def]

/-- What is under a path: the diagram page, the index, or the page of the last model with the
path. -/
theorem get?_filled_path (index path : String) :
    (filled settings selection s index).files.get? path =
      if diagramPath = path then some (diagramPage settings s)
      else if indexPath = path then some index
      else ((selection.models s).reverse.find? fun m => pagePath settings m.name == path).map
        (modelPage settings s) := by
  have hreverse : (documents settings selection s index).reverse =
      (diagramPath, diagramPage settings s) :: (indexPath, index) ::
        modelPages settings s (selection.models s).reverse := by
    rw [documents, List.reverse_append, modelPages, modelPages, List.map_reverse]
    rfl
  rw [filled, Keyed.get?_ofList, hreverse, Keyed.get?_cons, Keyed.get?_cons, get?_modelPages]

/-- Of several models of one name the last has the page. -/
theorem get?_filled (index name : String) :
    (filled settings selection s index).files.get? (pagePath settings name) =
      ((selection.models s).reverse.find? fun m => m.name == name).map (modelPage settings s) := by
  obtain ⟨hindex, hdiagram⟩ : pagePath settings name ≠ indexPath ∧
      pagePath settings name ≠ diagramPath := by
    simpa using pagePath_notMem settings name
  have hpath : ∀ m : Model, (pagePath settings m.name == pagePath settings name) =
      (m.name == name) := by
    intro m
    rw [Bool.eq_iff_iff, beq_iff_eq, beq_iff_eq, pagePath_inj]
  rw [get?_filled_path, if_neg hdiagram.symm, if_neg hindex.symm]
  simp only [hpath]

/-- The documents are at the paths of the model pages, and two more. -/
theorem keys_filled (index : String) :
    (filled settings selection s index).files.keys =
      ((selection.models s).map fun m => pagePath settings m.name).eraseDups ++
        [indexPath, diagramPath] := by
  let paths := (selection.models s).map fun m => pagePath settings m.name
  have hkeys : (documents settings selection s index).map Prod.fst =
      paths ++ [indexPath] ++ [diagramPath] := by
    simp [documents, modelPages, paths]
  have hpages : ∀ path ∈ [indexPath, diagramPath], path ∉ paths := by
    intro path hpath hmem
    obtain ⟨m, -, rfl⟩ := List.mem_map.1 hmem
    exact pagePath_notMem settings m.name hpath
  have hindex : indexPath ∉ paths := hpages _ (by simp)
  have hdiagram : diagramPath ∉ paths ++ [indexPath] := by
    rw [List.mem_append, not_or]
    exact ⟨hpages _ (by simp), by decide⟩
  rw [filled, Keyed.keys_ofList, hkeys, eraseDups_concat, if_neg hdiagram, eraseDups_concat,
    if_neg hindex, List.append_assoc]
  rfl

/-- There are as many documents as names of models, and two more. -/
theorem length_filled (index : String) :
    (filled settings selection s index).files.length =
      ((selection.models s).map Model.name).eraseDups.length + 2 := by
  have hpaths : ((selection.models s).map fun m => pagePath settings m.name) =
      ((selection.models s).map Model.name).map (pagePath settings) := by
    rw [List.map_map]
    rfl
  calc (filled settings selection s index).files.length
    _ = (filled settings selection s index).files.keys.length := (List.length_map _).symm
    _ = ((selection.models s).map Model.name).eraseDups.length + 2 := by
        rw [keys_filled, List.length_append, hpaths, eraseDups_map (pagePath_injective settings),
          List.length_map]
        rfl

end

/-! ### Whether there is documentation -/

section

variable {settings : DocSettings} {selection : Selection} {origin : Origin} {s : Schema}

theorem exists_enumerationLines_iff {e : Enumeration} :
    (∃ part, enumerationLines e = .ok part) ↔ ∃ members, e.members = .ok members :=
  exists_bind_pure_eq_ok_iff

theorem exists_indexPage_iff :
    (∃ index, indexPage settings origin s = .ok index) ↔
      ∀ e ∈ s.enumerations, ∃ members, e.members = .ok members := by
  simp only [← exists_enumerationLines_iff, ← exists_mapM_eq_ok_iff]
  exact exists_bind_pure_eq_ok_iff

/-- There is documentation of a schema unless an enumeration has a blank value, whatever is
selected. -/
theorem exists_bundle_iff :
    (∃ b, bundle settings selection origin s = .ok b) ↔
      ∀ e ∈ s.enumerations, ∃ members, e.members = .ok members := by
  rw [← exists_indexPage_iff]
  cases h : indexPage settings origin s with
  | error fault => simp [bundle_eq_error h]
  | ok index => simp [bundle_eq_ok h]

end

/-- There is an index page for every schema that has been read. -/
theorem exists_indexPage (settings : DocSettings) (origin : Origin) (lines : List Line) :
    ∃ index, indexPage settings origin (.ofLines lines) = .ok index :=
  exists_indexPage_iff.2 fun _ => exists_members_of_mem_enumerations

/-! ### First and last models -/

theorem lastModel?_eq_model? {s : Schema} (hnodup : (s.models.map Model.name).Nodup)
    (name : String) : lastModel? s name = s.model? name := by
  have hreverse : (s.models.reverse.map Model.name).Nodup := by
    rwa [List.map_reverse, List.nodup_reverse]
  ext m
  rw [lastModel?, Schema.model?, find?_eq_some_iff_of_nodup hreverse,
    find?_eq_some_iff_of_nodup hnodup, List.mem_reverse]

theorem exists_lastModel? {s : Schema} {name : String} (h : name ∈ s.modelNames) :
    ∃ m, lastModel? s name = some m := by
  obtain ⟨m, hm, rfl⟩ := List.mem_map.1 (List.mem_eraseDups.1 h)
  refine Option.isSome_iff_exists.1 (List.find?_isSome.2 ⟨m, ?_, ?_⟩) <;> simp [hm]

section

variable {settings : DocSettings} {s : Schema} {index : String}

theorem get?_filled_of_mem_modelNames {name : String} (h : name ∈ s.modelNames) :
    ∃ m, lastModel? s name = some m ∧
      (filled settings {} s index).files.get? (pagePath settings name) =
        some (modelPage settings s m) := by
  obtain ⟨m, hm⟩ := exists_lastModel? h
  exact ⟨m, hm, (get?_filled index name).trans (congrArg _ hm)⟩

theorem nodup_modelPages_filled_iff :
    (filled settings {} s index).modelPages.Nodup ↔ (s.models.map Model.name).Nodup := by
  have hpaths : (filled settings {} s index).modelPages =
      (s.models.map Model.name).map (pagePath settings) := by
    rw [List.map_map]
    rfl
  rw [hpaths, List.nodup_map_iff (pagePath_injective settings)]

/-- The bundle agrees with the look-up exactly if the first and the last model of a name are the
same. -/
theorem followsLookup_filled_iff :
    (filled settings {} s index).FollowsLookup settings s ↔ (s.models.map Model.name).Nodup := by
  constructor
  · exact fun h => nodup_modelPages_filled_iff.1 h.nodup_modelPages
  · intro hnodup
    have hnames : s.modelNames = s.models.map Model.name := eraseDups_of_nodup hnodup
    constructor
    · intro name hname
      rw [← lastModel?_eq_model? hnodup]
      exact get?_filled_of_mem_modelNames hname
    · exact nodup_modelPages_filled_iff.2 hnodup
    · calc (filled settings {} s index).files.length
        _ = s.modelNames.length + 2 := length_filled index
        _ = (filled settings {} s index).modelPages.length + 2 := by
            rw [hnames, filled, List.length_map, List.length_map]
            rfl

end

/-- Every name has the page of the last model of that name, every model is listed with the path of
its page, and there is a document for each name and two more.  These are the pages of the models
that the schema's look-up finds exactly if no two models have the same name. -/
theorem bundle_followsLookup_iff (settings : DocSettings) (origin : Origin) (text : String) :
    let s := Schema.ofText text
    ∃ b, bundle settings {} origin s = .ok b ∧
      (∀ name ∈ s.modelNames, ∃ m, lastModel? s name = some m ∧
        b.files.get? (pagePath settings name) = some (modelPage settings s m)) ∧
      b.modelPages = s.models.map (fun m => pagePath settings m.name) ∧
      b.files.length = s.modelNames.length + 2 ∧
      (b.FollowsLookup settings s ↔ (s.models.map Model.name).Nodup) := by
  intro s
  obtain ⟨index, hindex⟩ := exists_indexPage settings origin (lines text.toList)
  exact ⟨filled settings {} s index, bundle_eq_ok hindex,
    fun _ hname => get?_filled_of_mem_modelNames hname, rfl, length_filled index,
    followsLookup_filled_iff⟩

/-- With two models of one name the page of that name is not that of the model which the look-up
finds, it is listed twice, and one document is missing. -/
theorem not_followsLookup_of_same_name :
    let text := "model A \x7b\n  id Int @id\n\x7d\nmodel A \x7b\n  code String @id\n\x7d\n"
    let s := Schema.ofText text
    ∃ b, bundle {} {} {} s = .ok b ∧
      b.files.get? (pagePath {} "A") ≠ (s.model? "A").map (modelPage {} s) ∧
      ¬ b.modelPages.Nodup ∧ b.files.length ≠ b.modelPages.length + 2 := by
  intro text s
  have hpage : ((s.models.reverse.find? fun m => m.name == "A").map (modelPage {} s)) ≠
      (s.model? "A").map (modelPage {} s) := by
    decide +kernel
  have hpaths : ¬ (s.models.map fun m => pagePath {} m.name).Nodup := by
    decide +kernel
  have hlength : (s.models.map Model.name).eraseDups.length + 2 ≠
      (s.models.map fun m => pagePath {} m.name).length + 2 := by
    decide +kernel
  obtain ⟨index, hindex⟩ := exists_indexPage {} {} (lines text.toList)
  refine ⟨filled {} {} s index, bundle_eq_ok hindex, ?_, hpaths, ?_⟩
  · rw [get?_filled]
    exact hpage
  · rw [length_filled]
    exact hlength

end SchemaAtlas.Docs

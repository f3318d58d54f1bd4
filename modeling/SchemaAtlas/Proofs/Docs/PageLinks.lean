import SchemaAtlas.Proofs.Docs.PageTables
import SchemaAtlas.Proofs.Docs.SelectedPages

/-!
# Links between pages

A link names a document by its path from the directory of the page (`linkedPath?`): the index is in
the directory of the documentation, and the pages of the models are in one below it.

Main statement: if no two models have the same name, every link of the index leads to a page, a
relation field links to a page if its type is a model, and a relation between two models is on the
page of the one as often as on the page of the other (`bundle_linksAgree`).
-/

namespace SchemaAtlas.Docs

open Text Markdown

/-! ### Links -/

/-- The path of the document that a link names, from a page in the given directory. -/
def linkedPath? (directory target : String) : Option String :=
  (after? "./" target.toList).map fun rest => directory ++ .ofList rest

theorem linkedPath?_append (directory rest : String) :
    linkedPath? directory ("./" ++ rest) = some (directory ++ rest) := by
  simp [linkedPath?, after?, List.isPrefixOf?]

theorem code_inj {s t : String} : code s = code t ↔ s = t := by
  rw [code, code, String.append_left_inj, String.append_right_inj]

/-- A name stands twice in the link to its page, so the length of the link tells where it ends. -/
theorem pageLink_inj {s t : String} : pageLink s = pageLink t ↔ s = t := by
  refine ⟨fun h => ?_, congrArg pageLink⟩
  have hlist : s.toList ++ ("](./".toList ++ s.toList ++ ".md)".toList) =
      t.toList ++ ("](./".toList ++ t.toList ++ ".md)".toList) := by
    simpa [pageLink, link] using congrArg String.toList h
  have hlength : s.toList.length = t.toList.length := by
    have := congrArg List.length hlist
    simp only [List.length_append] at this
    omega
  exact String.toList_inj.1 (List.append_inj_left hlist hlength)

/-! ### Rows -/

/-- How many rows of a table begin with the given cells. -/
def countRows (t : Table) (cells : List String) : Nat :=
  t.rows.countP fun row => row.take cells.length = cells

section

variable {s : Schema} {m : Model}

theorem countRows_relationTable (name target : String) :
    countRows (relationTable m) [code name, pageLink target] =
      m.relationFields.countP fun f => f.name = name ∧ f.baseType = target := by
  rw [countRows, relationTable, List.countP_map]
  refine List.countP_congr fun f _ => ?_
  simp [relationRow, code_inj, pageLink_inj]

theorem countRows_referenceTable (references : List (Model × Field)) (source name : String) :
    countRows (referenceTable references) [pageLink source, code name] =
      references.countP fun r => r.1.name = source ∧ r.2.name = name := by
  rw [countRows, referenceTable, List.countP_map]
  refine List.countP_congr fun r _ => ?_
  simp [referenceRow, code_inj, pageLink_inj]

theorem filter_source_edges (hnodup : (s.models.map Model.name).Nodup) (hm : m ∈ s.models) :
    (s.edges.filter fun e => e.source = m.name) = m.relationFields.map (Edge.ofField m.name) := by
  rw [Schema.edges, List.filter_flatMap, flatMap_eq_of_nodup hnodup hm]
  · exact List.filter_eq_self.2 fun e he => by
      obtain ⟨f, -, rfl⟩ := List.mem_map.1 he
      exact decide_eq_true rfl
  · refine fun m' hne => List.filter_eq_nil_iff.2 fun e he => ?_
    obtain ⟨f, -, rfl⟩ := List.mem_map.1 he
    exact fun h => hne (of_decide_eq_true h)

/-- The references from another model. -/
theorem filter_source_referencesTo (hnodup : (s.models.map Model.name).Nodup) (hm : m ∈ s.models)
    {target : String} (hne : m.name ≠ target) :
    ((s.referencesTo target).filter fun r => r.1.name = m.name) =
      (m.relationFields.filter fun f => f.baseType == target).map fun f => (m, f) := by
  rw [Schema.referencesTo, List.filter_flatMap, flatMap_eq_of_nodup hnodup hm]
  · rw [if_neg (by simpa using hne)]
    exact List.filter_eq_self.2 fun r hr => by
      obtain ⟨f, -, rfl⟩ := List.mem_map.1 hr
      exact decide_eq_true rfl
  · refine fun m' hne' => List.filter_eq_nil_iff.2 fun r hr => ?_
    split at hr
    · cases hr
    · obtain ⟨f, -, rfl⟩ := List.mem_map.1 hr
      exact fun h => hne' (of_decide_eq_true h)

/-- How many relations of the model have the field name and the type. -/
theorem countP_edges (hnodup : (s.models.map Model.name).Nodup) (hm : m ∈ s.models)
    (name target : String) :
    s.edges.countP (fun e => e.source = m.name ∧ e.fieldName = name ∧ e.target = target) =
      m.relationFields.countP fun f => f.name = name ∧ f.baseType = target := by
  have hsplit :
      s.edges.countP (fun e => e.source = m.name ∧ e.fieldName = name ∧ e.target = target) =
        (s.edges.filter fun e => e.source = m.name).countP
          fun e => e.fieldName = name ∧ e.target = target := by
    rw [List.countP_filter]
    refine List.countP_congr fun e _ => ?_
    simp [and_comm]
  rw [hsplit, filter_source_edges hnodup hm, List.countP_map]
  rfl

theorem countP_referencesTo (hnodup : (s.models.map Model.name).Nodup) (hm : m ∈ s.models)
    (name : String) {target : String} (hne : m.name ≠ target) :
    (s.referencesTo target).countP (fun r => r.1.name = m.name ∧ r.2.name = name) =
      m.relationFields.countP fun f => f.name = name ∧ f.baseType = target := by
  have hsplit : (s.referencesTo target).countP (fun r => r.1.name = m.name ∧ r.2.name = name) =
      ((s.referencesTo target).filter fun r => r.1.name = m.name).countP
        fun r => r.2.name = name := by
    rw [List.countP_filter]
    refine List.countP_congr fun r _ => ?_
    simp [and_comm]
  rw [hsplit, filter_source_referencesTo hnodup hm hne, List.countP_map, List.countP_filter]
  refine List.countP_congr fun f _ => ?_
  simp

end

/-! ### Documents -/

/-- The documents of a bundle and the links between them: there are a page for every model, the
index and the diagram page, the index links to every page once, and a relation between two models is
on the page of the one as often as on the page of the other. -/
structure Bundle.LinksAgree (settings : DocSettings) (s : Schema) (b : Bundle) : Prop where
  keys_eq : b.files.keys =
    s.models.map (fun m => pagePath settings m.name) ++ [indexPath, diagramPath]
  index : ∃ lines, b.files.get? indexPath = some (joined "\n" lines) ∧
    (lines.filter isLinkRow).Perm (s.models.map fun m => rowLine (modelRow settings m))
  page : ∀ m ∈ s.models, ∃ lines,
    b.files.get? (pagePath settings m.name) = some (joined "\n" lines) ∧
    rowsBelow "Relations" lines = (relationTable m).rows.map rowLine ∧
    rowsBelow "Referenced By" lines = (referenceTable (s.referencesTo m.name)).rows.map rowLine
  index_link : ∀ m ∈ s.models, ∃ target, (modelRow settings m).head? = some (link m.name target) ∧
    ∃ path ∈ b.files.keys, linkedPath? "" target = some path
  relation_link : ∀ m ∈ s.models, ∀ f ∈ m.relationFields, ∃ target,
    (relationRow f)[1]? = some (link f.baseType target) ∧ target = "./" ++ f.baseType ++ ".md" ∧
    ((∃ path ∈ b.files.keys, linkedPath? (settings.modelsDir ++ "/") target = some path) ↔
      ∃ t ∈ s.models, t.name = f.baseType)
  both_sides : ∀ m ∈ s.models, ∀ t ∈ s.models, m.name ≠ t.name → ∀ name,
    let edges := s.edges.countP fun e =>
      e.source = m.name ∧ e.fieldName = name ∧ e.target = t.name
    countRows (relationTable m) [code name, pageLink t.name] = edges ∧
    countRows (referenceTable (s.referencesTo t.name)) [pageLink m.name, code name] = edges

section

variable {settings : DocSettings} {origin : Origin} {s : Schema}

theorem pagePath_mem_keys_iff {name : String} :
    pagePath settings name ∈
        s.models.map (fun m => pagePath settings m.name) ++ [indexPath, diagramPath] ↔
      ∃ t ∈ s.models, t.name = name := by
  rw [List.mem_append, or_iff_left (pagePath_notMem settings name), List.mem_map]
  simp only [pagePath_inj]

theorem keys_filled_of_nodup (hnodup : (s.models.map Model.name).Nodup) (index : String) :
    (filled settings {} s index).files.keys =
      s.models.map (fun m => pagePath settings m.name) ++ [indexPath, diagramPath] := by
  have hpaths : (s.models.map fun m => pagePath settings m.name).Nodup := by
    simpa [Function.comp_def] using (List.nodup_map_iff (pagePath_injective settings)).2 hnodup
  rw [keys_filled, Selection.models_default, eraseDups_of_nodup hpaths]

theorem get?_filled_of_nodup (hnodup : (s.models.map Model.name).Nodup) (index : String)
    {m : Model} (hm : m ∈ s.models) :
    (filled settings {} s index).files.get? (pagePath settings m.name) =
      some (modelPage settings s m) := by
  have hlast : lastModel? s m.name = some m := by
    rw [lastModel?_eq_model? hnodup, Schema.model?, find?_eq_some_iff_of_nodup hnodup]
    exact ⟨hm, rfl⟩
  exact (get?_filled index m.name).trans (congrArg _ hlast)

theorem linksAgree_filled (hnodup : (s.models.map Model.name).Nodup)
    {enumerations : List (List String)}
    (h : s.enumerations.mapM enumerationLines = .ok enumerations) :
    Bundle.LinksAgree settings s
      (filled settings {} s (joined "\n" (indexLines settings origin s enumerations))) where
  keys_eq := keys_filled_of_nodup hnodup _
  index := by
    refine ⟨indexLines settings origin s enumerations, ?_, linkRows_indexLines_perm h⟩
    rw [get?_filled_path, if_neg (by decide), if_pos rfl]
  page := by
    intro m hm
    exact ⟨modelPageLines settings s m, get?_filled_of_nodup hnodup _ hm,
      rowsBelow_relations settings s m, rowsBelow_references settings s m⟩
  index_link := by
    intro m hm
    refine ⟨"./" ++ pagePath settings m.name, rfl, pagePath settings m.name, ?_, ?_⟩
    · rw [keys_filled_of_nodup hnodup, pagePath_mem_keys_iff]
      exact ⟨m, hm, rfl⟩
    · rw [linkedPath?_append, String.empty_append]
  relation_link := by
    intro m hm f hf
    have hpath : linkedPath? (settings.modelsDir ++ "/") ("./" ++ f.baseType ++ ".md") =
        some (pagePath settings f.baseType) := by
      rw [String.append_assoc, linkedPath?_append, pagePath, ← String.append_assoc]
    refine ⟨"./" ++ f.baseType ++ ".md", rfl, rfl, ?_⟩
    simp only [hpath, keys_filled_of_nodup hnodup, Option.some.injEq, exists_eq_right',
      pagePath_mem_keys_iff]
  both_sides := by
    intro m hm t ht hne name
    constructor
    · rw [countRows_relationTable, countP_edges hnodup hm]
    · rw [countRows_referenceTable, countP_referencesTo hnodup hm name hne,
        countP_edges hnodup hm]

end

/-- If no two models have the same name, the links between the documents of a schema agree.  There
are documents of the schema unless an enumeration has a blank value. -/
theorem bundle_linksAgree (settings : DocSettings) (origin : Origin) (s : Schema)
    (hnodup : (s.models.map Model.name).Nodup) :
    ((∃ b, bundle settings {} origin s = .ok b) ↔
      ∀ e ∈ s.enumerations, ∃ members, e.members = .ok members) ∧
    ∀ b, bundle settings {} origin s = .ok b → b.LinksAgree settings s := by
  refine ⟨exists_bundle_iff, fun b hb => ?_⟩
  have hmembers := exists_bundle_iff.1 ⟨b, hb⟩
  obtain ⟨enumerations, h⟩ : ∃ enumerations, s.enumerations.mapM enumerationLines =
      .ok enumerations :=
    exists_mapM_eq_ok fun e he => exists_enumerationLines_iff.2 (hmembers e he)
  obtain rfl := Except.ok.inj (hb.symm.trans (bundle_eq_ok (indexPage_eq_ok h)))
  exact linksAgree_filled hnodup h

/-- Two models that refer to each other, and one of them also to a name that is not a model. -/
theorem linksAgree_of_two_models :
    let s : Schema := { models := [
      { name := "User", fields := [
        { name := "posts", baseType := "Post", kind := .relation, isList := true },
        { name := "team", baseType := "Team", kind := .relation }] },
      { name := "Post", fields := [{ name := "author", baseType := "User", kind := .relation }] }] }
    (s.models.map Model.name).Nodup ∧ ∃ b, bundle {} {} {} s = .ok b ∧ b.LinksAgree {} s := by
  intro s
  have hnodup : (s.models.map Model.name).Nodup := by decide
  obtain ⟨hexists, hlinks⟩ := bundle_linksAgree {} {} s hnodup
  obtain ⟨b, hb⟩ := hexists.2 fun e he => by cases he
  exact ⟨hnodup, b, hb, hlinks b hb⟩

end SchemaAtlas.Docs

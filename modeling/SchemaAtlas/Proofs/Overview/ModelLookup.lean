import SchemaAtlas.Proofs.Lists
import SchemaAtlas.Proofs.Overview.CategoryGroups

/-!
# Look-up of models by name

A model is looked up by its name in any letter case, or by the beginning of its name.  The whole
name comes first: it finds its model also if other names begin so.  The beginning of a name finds a
model only if no other name begins so, and then every longer beginning of that name finds it too,
since fewer names begin with the longer one.

Main statement: this is what a look-up in the overview of a schema finds, in whichever order the
categories put the models (`find?_ofSchema`).
-/

namespace SchemaAtlas

open Text

/-! ### Beginnings of names -/

/-- In some letter case, the name begins with the query. -/
def IsBeginning (query name : String) : Prop :=
  (lower query).toList <+: (lower name).toList

instance (query : String) : DecidablePred (IsBeginning query) := fun _ =>
  inferInstanceAs (Decidable (_ <+: _))

theorem isBeginning_of_lower_eq {query name : String} (h : lower query = lower name) :
    IsBeginning query name :=
  ⟨[], by rw [h, List.append_nil]⟩

namespace Overview

variable {o : Overview} {query : String} {sheet : ModelSheet}

/-! ### One look-up -/

/-- The models whose names begin with the query. -/
def beginning (o : Overview) (query : String) : List ModelSheet :=
  o.models.filter fun sheet => IsBeginning query sheet.name

theorem find?_eq (o : Overview) (query : String) :
    o.find? query =
      match o.models.find? fun sheet => sheet.lowerName == lower query with
      | some sheet => some sheet
      | none =>
        match o.beginning query with
        | [sheet] => some sheet
        | _ => none := by
  have hbeginning : (o.models.filter fun sheet =>
      (lower query).toList.isPrefixOf sheet.lowerName.toList) = o.beginning query := by
    refine List.filter_congr fun sheet _ => ?_
    rw [Bool.eq_iff_iff, List.isPrefixOf_iff_prefix, decide_eq_true_iff]
    rfl
  rw [← hbeginning]
  rfl

/-- The whole name of a model finds the model. -/
theorem find?_of_lower_eq (hnames : (o.models.map ModelSheet.lowerName).Nodup)
    (hsheet : sheet ∈ o.models) (hquery : lower query = sheet.lowerName) :
    o.find? query = some sheet := by
  rw [find?_eq, (find?_eq_some_iff_of_nodup hnames).2 ⟨hsheet, hquery.symm⟩]

/-- Where no model has the name, only the one that begins so is found. -/
theorem find?_eq_some_iff_of_forall_ne
    (hquery : ∀ sheet ∈ o.models, sheet.lowerName ≠ lower query) :
    o.find? query = some sheet ↔ o.beginning query = [sheet] := by
  have hexact : (o.models.find? fun sheet => sheet.lowerName == lower query) = none :=
    List.find?_eq_none.2 fun sheet hsheet => by simpa using hquery sheet hsheet
  rw [find?_eq, hexact]
  show (match o.beginning query with | [sheet] => some sheet | _ => none) = some sheet ↔ _
  split
  case h_1 found hbeginning => rw [hbeginning, Option.some_inj, List.singleton_inj]
  case h_2 hbeginning =>
    constructor
    · intro hfound
      cases hfound
    · exact fun hone => absurd hone (hbeginning sheet)

/-! ### Longer queries -/

/-- A longer query leaves fewer models. -/
theorem beginning_of_isBeginning {longer : String} (h : IsBeginning query longer) :
    o.beginning longer = (o.beginning query).filter fun sheet => IsBeginning longer sheet.name := by
  unfold beginning
  rw [List.filter_filter]
  refine List.filter_congr fun sheet _ => ?_
  have hshorter : IsBeginning longer sheet.name → IsBeginning query sheet.name := h.trans
  rw [Bool.eq_iff_iff, Bool.and_eq_true, decide_eq_true_iff, decide_eq_true_iff]
  exact ⟨fun hlonger => ⟨hlonger, hshorter hlonger⟩, And.left⟩

/-- The one model whose name begins with the query is found by every longer beginning of the name. -/
theorem find?_of_beginning_eq (hnames : (o.models.map ModelSheet.lowerName).Nodup)
    (hone : o.beginning query = [sheet]) {longer : String} (hlonger : IsBeginning query longer)
    (hsheet : IsBeginning longer sheet.name) : o.find? longer = some sheet := by
  by_cases hexact : ∃ other ∈ o.models, other.lowerName = lower longer
  -- The longer query may be the whole name of a model, but then that name begins with the query.
  · obtain ⟨other, hother, hname⟩ := hexact
    have hbegins : other ∈ o.beginning query :=
      List.mem_filter.2 ⟨hother, decide_eq_true
        (List.IsPrefix.trans hlonger (isBeginning_of_lower_eq hname.symm))⟩
    rw [hone, List.mem_singleton] at hbegins
    subst hbegins
    exact find?_of_lower_eq hnames hother hname.symm
  · push Not at hexact
    apply (find?_eq_some_iff_of_forall_ne hexact).2
    rw [beginning_of_isBeginning hlonger, hone, List.filter_singleton, decide_eq_true hsheet]
    rfl

/-! ### The overview of a schema -/

section

variable (s : Schema)

theorem models_ofSchema_perm : (ofSchema s).models.Perm (s.models.map .ofModel) :=
  (sameGroups s).sheets_perm

theorem mem_models_ofSchema : sheet ∈ (ofSchema s).models ↔ ∃ m ∈ s.models, .ofModel m = sheet := by
  rw [(models_ofSchema_perm s).mem_iff, List.mem_map]

theorem length_beginning_ofSchema (query : String) :
    ((ofSchema s).beginning query).length = s.models.countP fun m => IsBeginning query m.name := by
  unfold beginning
  rw [← List.countP_eq_length_filter, (models_ofSchema_perm s).countP_eq, List.countP_map]
  rfl

theorem nodup_lowerName_ofSchema (hnames : (s.models.map fun m => lower m.name).Nodup) :
    ((ofSchema s).models.map ModelSheet.lowerName).Nodup := by
  have hperm := (models_ofSchema_perm s).map ModelSheet.lowerName
  rw [List.map_map] at hperm
  exact hperm.nodup_iff.2 hnames

/-- A query that is the name of a model in any letter case finds that model.  Any other query finds
a model only if it is the beginning of its name and of no other name, and then all longer beginnings
of the name find the model as well. -/
theorem find?_ofSchema (hnames : (s.models.map fun m => lower m.name).Nodup) :
    (∀ m ∈ s.models, ∀ query, lower query = lower m.name →
      (ofSchema s).find? query = some (.ofModel m)) ∧
    ∀ query, (∀ m ∈ s.models, lower query ≠ lower m.name) →
      (∀ sheet, (ofSchema s).find? query = some sheet →
        ∃ m ∈ s.models, sheet = .ofModel m ∧ IsBeginning query m.name ∧
          ∀ longer, IsBeginning query longer → IsBeginning longer m.name →
            (ofSchema s).find? longer = some (.ofModel m)) ∧
      ((ofSchema s).find? query = none ↔
        (s.models.countP fun m => IsBeginning query m.name) ≠ 1) := by
  have hdistinct := nodup_lowerName_ofSchema s hnames
  refine ⟨fun m hm query hquery => ?_, fun query hquery => ?_⟩
  · exact find?_of_lower_eq hdistinct ((mem_models_ofSchema s).2 ⟨m, hm, rfl⟩) hquery
  · have hother : ∀ sheet ∈ (ofSchema s).models, sheet.lowerName ≠ lower query := by
      intro sheet hsheet
      obtain ⟨m, hm, rfl⟩ := (mem_models_ofSchema s).1 hsheet
      exact (hquery m hm).symm
    have hfound : ∀ sheet,
        (ofSchema s).find? query = some sheet ↔ (ofSchema s).beginning query = [sheet] :=
      fun _ => find?_eq_some_iff_of_forall_ne hother
    constructor
    · intro sheet hsheet
      have hone := (hfound sheet).1 hsheet
      have hmem : sheet ∈ (ofSchema s).beginning query := by
        rw [hone]
        exact List.mem_singleton_self sheet
      obtain ⟨hmodels, hbegins⟩ := List.mem_filter.1 hmem
      obtain ⟨m, hm, rfl⟩ := (mem_models_ofSchema s).1 hmodels
      exact ⟨m, hm, rfl, of_decide_eq_true hbegins,
        fun longer hlonger hsheet => find?_of_beginning_eq hdistinct hone hlonger hsheet⟩
    · rw [← length_beginning_ofSchema, ne_eq, List.length_eq_one_iff, not_exists,
        Option.eq_none_iff_forall_ne_some]
      exact forall_congr' fun sheet => not_congr (hfound sheet)

/-- The name of one model is the beginning of another name. -/
theorem find?_ofSchema_user :
    let s : Schema :=
      { models := [{ name := "UserGroup" }, { name := "User" }, { name := "Usage" }] }
    (ofSchema s).find? "USER" = some (.ofModel { name := "User" }) ∧
      (ofSchema s).find? "userg" = some (.ofModel { name := "UserGroup" }) ∧
      (ofSchema s).find? "userGR" = some (.ofModel { name := "UserGroup" }) ∧
      (ofSchema s).find? "us" = none := by
  intro s
  obtain ⟨hexact, hother⟩ := find?_ofSchema s (by decide +kernel)
  obtain ⟨hbeginning, hnone⟩ := hother "userg" (by decide +kernel)
  obtain ⟨sheet, hsheet⟩ := Option.ne_none_iff_exists'.1 (mt hnone.1 (by decide +kernel))
  obtain ⟨m, hm, rfl, hbegins, hlonger⟩ := hbeginning sheet hsheet
  have hunique : ∀ m ∈ s.models, IsBeginning "userg" m.name → m = { name := "UserGroup" } := by
    decide +kernel
  obtain rfl := hunique m hm hbegins
  exact ⟨hexact { name := "User" } (by decide +kernel) "USER" (by decide +kernel), hsheet,
    hlonger "userGR" (by decide +kernel) (by decide +kernel),
    (hother "us" (by decide +kernel)).2.2 (by decide +kernel)⟩

end

end Overview

end SchemaAtlas

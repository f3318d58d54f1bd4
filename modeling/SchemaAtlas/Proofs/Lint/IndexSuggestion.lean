import SchemaAtlas.Proofs.Lint.Renumbering
import SchemaAtlas.Proofs.Schema.IndexLine
import SchemaAtlas.Proofs.Schema.Positions

/-!
# Suggested indexes

The finding that a foreign key has no index suggests a line for the model.  That line, put in front
of the last line of the model, is an index that covers this foreign key and no other, so the finding
is gone and all others of the model stay (`missingIndexIssues_of_covered`).

Main statement: a report about the schema with the suggested line is the report about the schema
without it, less the one finding and with higher line numbers from the last line of the model on
(`validate_insert_suggestion`).
-/

namespace SchemaAtlas

open Text

/-- The number that a line gets when one more line is put in front of line `first`. -/
def numberAfterInsert (first line : Nat) : Nat :=
  if first ≤ line then line + 1 else line

/-! ### Where models stand -/

namespace Model

variable {first : Nat} {m : Model}

theorem map_renumbered_of_lt {fields : List Field} (h : ∀ f ∈ fields, f.line < first) :
    fields.map (.renumbered (numberAfterInsert first)) = fields := by
  have hfield : ∀ f ∈ fields, f.renumbered (numberAfterInsert first) = id f := by
    intro f hf
    rw [Field.renumbered, numberAfterInsert, if_neg (Nat.not_le.2 (h f hf))]
    rfl
  rw [List.map_congr_left hfield, List.map_id]

theorem renumbers_of_lt (hline : m.line < first) (hfields : ∀ f ∈ m.fields, f.line < first) :
    m.Renumbers (numberAfterInsert first) m where
  name := rfl
  fields := (map_renumbered_of_lt hfields).symm
  uniqueConstraints := rfl
  line := (if_neg (Nat.not_le.2 hline)).symm

theorem renumbers_moved (hline : first ≤ m.line) (hfields : ∀ f ∈ m.fields, first ≤ f.line) :
    m.Renumbers (numberAfterInsert first) (m.moved 1) where
  name := rfl
  fields := by
    refine List.map_congr_left fun f hf => ?_
    rw [Field.renumbered, numberAfterInsert, if_pos (hfields f hf), Field.moved, Nat.add_comm]
  uniqueConstraints := rfl
  line := by
    rw [numberAfterInsert, if_pos hline, moved, Nat.add_comm]

theorem renumbers_indexed (hline : m.line < m.endLine)
    (hfields : ∀ f ∈ m.fields, f.line < m.endLine) (key : String) :
    m.Renumbers (numberAfterInsert m.endLine) (m.indexed key) where
  name := rfl
  fields := (map_renumbered_of_lt hfields).symm
  uniqueConstraints := rfl
  line := (if_neg (Nat.not_le.2 hline)).symm

end Model

namespace Schema

variable {lines above below : List Line} {front back : List Model} {m : Model}

/-- When the model `m` gets an index in a new line, the models in front of it stay where they are,
and those behind it move down. -/
theorem renumbers_models (hmodels : (ofLines lines).models = front ++ m :: back)
    (hopen : m.line < m.endLine) (key : String) :
    let r := numberAfterInsert m.endLine
    (∀ m' ∈ front, m'.Renumbers r m') ∧ m.Renumbers r (m.indexed key) ∧
      ∀ m' ∈ back, m'.Renumbers r (m'.moved 1) := by
  have hpair := pairwise_models lines
  have hstands : ∀ m' ∈ front ++ m :: back, m'.StandsIn lines :=
    fun m' hm' => standsIn_of_mem_models (hmodels ▸ hm')
  rw [hmodels, List.pairwise_append, List.pairwise_cons] at hpair
  obtain ⟨-, ⟨hback, -⟩, hfront⟩ := hpair
  refine ⟨fun m' hm' => ?_, ?_, fun m' hm' => ?_⟩
  · have hm := hstands m' (List.mem_append_left _ hm')
    have hlt := hfront m' hm' m List.mem_cons_self
    have hle := hm.line_le_endLine
    refine Model.renumbers_of_lt (by omega) fun f hf => ?_
    have hfield := hm.field_between f hf
    omega
  · have hm := hstands m (List.mem_append_right _ List.mem_cons_self)
    exact Model.renumbers_indexed hopen (fun f hf => (hm.field_between f hf).2) key
  · have hm := hstands m' (List.mem_append_right _ (List.mem_cons_of_mem m hm'))
    have hlt := hback m' hm'
    refine Model.renumbers_moved (by omega) fun f hf => ?_
    have hfield := hm.field_between f hf
    omega

theorem renumbers_insert_indexOver {key : String} (hkey : IsName key)
    (hmodels : (ofLines (above ++ below)).models = front ++ m :: back)
    (hopen : m.line < m.endLine) (hlength : above.length + 1 = m.endLine) :
    (ofLines (above ++ below)).Renumbers (numberAfterInsert m.endLine)
      (ofLines (above ++ (indexOver key).toList :: below)) := by
  obtain ⟨hfront, hm, hback⟩ := renumbers_models hmodels hopen key
  rw [ofLines_insert_indexOver hkey hmodels hopen hlength]
  refine ⟨?_, rfl⟩
  show List.Forall₂ _ (ofLines (above ++ below)).models _
  rw [hmodels]
  refine List.rel_append (List.forall₂_same.2 hfront) (.cons hm ?_)
  exact List.forall₂_map_right_iff.2 (List.forall₂_same.2 hback)

end Schema

namespace Lint

/-! ### Findings about indexes -/

section

variable {m m' : Model} {key : String}

/-- The new index covers the field that it names and no other. -/
theorem isCovered_indexed (hkey : IsName key) (m : Model) (name : String) :
    isCovered (m.indexed key) name = (isCovered m name || name == key) := by
  have hlead : ((BlockAttribute.mk [key] (indexOver key)).leadField? == some name &&
      !name.isEmpty) = (name == key) := by
    have hempty : key.isEmpty = false := by
      have hne : key ≠ "" := fun h => hkey.ne_nil (by rw [h]; rfl)
      simp [hne]
    by_cases hname : name = key
    · simp [BlockAttribute.leadField?, hname, hempty]
    · have hne : key ≠ name := Ne.symm hname
      simp [BlockAttribute.leadField?, beq_eq_false_iff_ne.2 hname, beq_eq_false_iff_ne.2 hne]
  simp only [isCovered, Model.blockAttributes, Model.indexed, List.any_append, List.any_cons,
    List.any_nil, hlead, Bool.or_false]
  grind

theorem filter_ne_of_nodup {before after : List String} (h : (before ++ key :: after).Nodup) :
    (before ++ key :: after).filter (fun name => !name == key) = before ++ after := by
  obtain ⟨hbefore, hafter⟩ : key ∉ before ∧ key ∉ after := by
    rw [List.nodup_append, List.nodup_cons] at h
    exact ⟨fun hmem => h.2.2 key hmem key List.mem_cons_self rfl, h.2.1.1⟩
  have hself : ∀ names : List String, key ∉ names →
      names.filter (fun name => !name == key) = names := by
    intro names hnames
    refine List.filter_eq_self.2 fun name hname => ?_
    have hne : name ≠ key := fun heq => hnames (heq ▸ hname)
    simpa using hne
  simp [List.filter_append, hself before hbefore, hself after hafter]

/-- If one more foreign key is covered, the finding about it is gone. -/
theorem missingIndexIssues_of_covered {r : Nat → Nat} (h : m.Renumbers r m')
    (hcovered : ∀ name, isCovered m' name = (isCovered m name || name == key))
    {before after : List Issue} {issue : Issue}
    (hissues : missingIndexIssues m = before ++ issue :: after) (hfield : issue.field = some key) :
    missingIndexIssues m' = (before ++ after).map (.renumbered r) := by
  let keys := (foreignKeys m).filter fun name => !isCovered m name
  have hkeys : (foreignKeys m').filter (fun name => !isCovered m' name) =
      keys.filter fun name => !name == key := by
    rw [foreignKeys_of_renumbers h, List.filter_filter]
    refine List.filter_congr fun name _ => ?_
    rw [hcovered, Bool.not_or, Bool.and_comm]
  have hissue : missingIndex m' = Issue.renumbered r ∘ missingIndex m :=
    funext fun name => missingIndex_of_renumbers h name
  have hnodup : keys.Nodup := (nodup_eraseDups _).filter _
  obtain ⟨front, rest, hsplit, hfront, hrest⟩ := List.map_eq_append_iff.1 hissues
  obtain ⟨name, back, rfl, hname, hback⟩ := List.map_eq_cons_iff.1 hrest
  obtain rfl : name = key := by
    rw [← hname] at hfield
    exact Option.some.inj hfield
  have hsplit : keys = front ++ name :: back := hsplit
  rw [hsplit] at hnodup
  rw [missingIndexIssues, hkeys, hsplit, filter_ne_of_nodup hnodup, hissue, ← List.map_map,
    List.map_append, hfront, hback]

/-- What is found about the models when one of them gets the index that a finding suggests. -/
theorem flatMap_missingIndexIssues_indexed {lines : List Line} {front back : List Model}
    (hmodels : (Schema.ofLines lines).models = front ++ m :: back) (hopen : m.line < m.endLine)
    (hkey : IsName key) {before after : List Issue} {issue : Issue}
    (hissues : missingIndexIssues m = before ++ issue :: after) (hfield : issue.field = some key) :
    (front ++ m.indexed key :: back.map (.moved 1)).flatMap missingIndexIssues =
      (front.flatMap missingIndexIssues ++ before ++
        (after ++ back.flatMap missingIndexIssues)).map
          (.renumbered (numberAfterInsert m.endLine)) := by
  obtain ⟨hfront, hm, hback⟩ := Schema.renumbers_models hmodels hopen key
  have hissuesFront : front.flatMap missingIndexIssues = (front.flatMap missingIndexIssues).map
      (.renumbered (numberAfterInsert m.endLine)) := by
    rw [List.map_flatMap]
    exact List.flatMap_congr fun m' hm' => missingIndexIssues_of_renumbers (hfront m' hm') rfl
  have hissuesBack : (back.map (.moved 1)).flatMap missingIndexIssues =
      (back.flatMap missingIndexIssues).map (.renumbered (numberAfterInsert m.endLine)) := by
    rw [List.flatMap_map, List.map_flatMap]
    exact List.flatMap_congr fun m' hm' => missingIndexIssues_of_renumbers (hback m' hm') rfl
  have hissuesModel := missingIndexIssues_of_covered hm (isCovered_indexed hkey m) hissues hfield
  rw [List.flatMap_append, List.flatMap_cons, hissuesModel, hissuesBack]
  simp only [List.map_append, ← hissuesFront, List.append_assoc]

theorem exists_field_of_missingIndexIssues {issue : Issue} (h : issue ∈ missingIndexIssues m) :
    ∃ f, f ∈ m.fields := by
  obtain ⟨key, hkey, -⟩ := List.mem_map.1 h
  have hmem := List.mem_eraseDups.1 (List.mem_of_mem_filter hkey)
  obtain ⟨f, hf, -⟩ := List.mem_flatMap.1 hmem
  exact ⟨f, List.mem_of_mem_filter hf⟩

end

/-! ### Reports -/

/-- The index that a finding suggests, put in front of the last line of the model, removes this
finding from the report and changes the others in their line numbers only. -/
theorem validate_insert_suggestion {settings : LintSettings} {text text' : String}
    {front back : List Model} {m : Model} {before after : List Issue} {issue : Issue}
    {key suggestion : String} {above below : List Line}
    (hpatterns : PatternsReadable settings) (henabled : indexRule.id ∉ settings.disabledRules)
    (hmodels : (Schema.ofText text).models = front ++ m :: back)
    (hissues : missingIndexIssues m = before ++ issue :: after)
    (hfield : issue.field = some key) (hkey : IsName key)
    (hsuggestion : issue.suggestion = some suggestion)
    (htext : lines text.toList = above ++ below) (hlength : above.length + 1 = m.endLine)
    (htext' : lines text'.toList = above ++ suggestion.toList :: below) :
    ∃ report report' rest,
      validate settings (.ofText text) = .ok report ∧
      validate settings (.ofText text') = .ok report' ∧
      report'.rules = report.rules ∧
      report.issues = front.flatMap missingIndexIssues ++ before ++ issue :: rest ∧
      report'.issues = (front.flatMap missingIndexIssues ++ before ++ rest).map
        (.renumbered (numberAfterInsert m.endLine)) := by
  have hmem : issue ∈ missingIndexIssues m := by simp [hissues]
  obtain ⟨name, -, hname⟩ := List.mem_map.1 hmem
  obtain rfl : name = key := by
    rw [← hname] at hfield
    exact Option.some.inj hfield
  obtain rfl : indexOver name = suggestion := by
    rw [← hname] at hsuggestion
    exact Option.some.inj hsuggestion
  rw [Schema.ofText, htext] at hmodels ⊢
  rw [Schema.ofText, htext']
  have hstands : m.StandsIn (above ++ below) := Schema.standsIn_of_mem_models (by simp [hmodels])
  have hopen : m.line < m.endLine := by
    obtain ⟨f, hf⟩ := exists_field_of_missingIndexIssues hmem
    have hbetween := hstands.field_between f hf
    omega
  have hs := Schema.renumbers_insert_indexOver hkey hmodels hopen hlength
  obtain ⟨results, hreport, hreport'⟩ := validate_of_renumbers hpatterns henabled hs
  have hindexed := Schema.ofLines_insert_indexOver hkey hmodels hopen hlength
  have hfound := flatMap_missingIndexIssues_indexed hmodels hopen hkey hissues hfield
  have hresults :
      (results.map (.renumbered (numberAfterInsert m.endLine))).flatMap RuleResult.issues =
        (results.flatMap RuleResult.issues).map (.renumbered (numberAfterInsert m.endLine)) := by
    rw [List.flatMap_map, List.map_flatMap]
    rfl
  refine ⟨_, _, after ++ back.flatMap missingIndexIssues ++ results.flatMap RuleResult.issues,
    hreport, hreport', ?_, ?_, ?_⟩
  · simp only [Report.rules, List.map_cons, List.map_map]
    rfl
  · simp only [Report.issues, List.flatMap_cons, hmodels, List.flatMap_append, hissues,
      List.append_assoc, List.cons_append]
  · rw [Report.issues, List.flatMap_cons, hresults, hindexed, hfound]
    simp only [List.map_append, List.append_assoc]

/-- Two models of one name have the same foreign key without an index, which is shared with another
relation and named second in an index.  Only the finding about the first of them is gone. -/
theorem validate_insert_suggestion_twice :
    let settings : LintSettings := { joinTablePatterns := ["_"] }
    let text (ls : List String) := String.ofList (ls.flatMap fun l => l.toList ++ ['\n'])
    let above := ["model P \x7b", "u U @relation(fields: [a, b])", "v U @relation(fields: [b])",
      "@@index([a, b])"]
    let below := ["\x7d", "model P \x7b", "u U @relation(fields: [b])", "\x7d"]
    let shown (issue : Issue) := (issue.rule, issue.field, issue.line)
    ∃ report report',
      validate settings (.ofText (text (above ++ below))) = .ok report ∧
      validate settings (.ofText (text (above ++ "@@index([b])" :: below))) = .ok report' ∧
      report.issues.map shown =
        [("missing-fk-index", some "b", none), ("missing-fk-index", some "b", none),
          ("relation-integrity", some "u", some 2), ("relation-integrity", some "v", some 3),
          ("relation-integrity", some "u", some 7)] ∧
      report'.issues.map shown =
        [("missing-fk-index", some "b", none), ("relation-integrity", some "u", some 2),
          ("relation-integrity", some "v", some 3), ("relation-integrity", some "u", some 8)] := by
  intro settings text above below shown
  have htext : lines (text (above ++ below)).toList =
      above.map String.toList ++ below.map String.toList := by
    rw [String.toList_ofList]
    decide +kernel
  have htext' : lines (text (above ++ "@@index([b])" :: below)).toList =
      above.map String.toList ++ "@@index([b])".toList :: below.map String.toList := by
    rw [String.toList_ofList]
    decide +kernel
  let s := Schema.ofLines (above.map String.toList ++ below.map String.toList)
  have hs : Schema.ofText (text (above ++ below)) = s := by rw [Schema.ofText, htext]
  let m := (s.models[0]?).getD ⟨"", [], none, [], [], [], 0, 0⟩
  have hmodels : s.models = [] ++ m :: s.models.drop 1 := by decide +kernel
  have hissues : missingIndexIssues m = [] ++ missingIndex m "b" :: [] := by decide +kernel
  have hlength : (above.map String.toList).length + 1 = m.endLine := by decide +kernel
  have hpatterns : PatternsReadable settings := by
    intro pattern hpattern
    obtain rfl := List.mem_singleton.1 hpattern
    exact ⟨_, rfl⟩
  have hname : IsName "b" := ⟨by decide, List.all_eq_true.1 (by decide)⟩
  obtain ⟨report, report', rest, hreport, hreport', -, hfirst, hsecond⟩ :=
    validate_insert_suggestion hpatterns (by decide) (hs ▸ hmodels) hissues rfl hname rfl htext
      hlength htext'
  have heval : (validate settings s).map (fun report => report.issues.map shown) = .ok
      [("missing-fk-index", some "b", none), ("missing-fk-index", some "b", none),
        ("relation-integrity", some "u", some 2), ("relation-integrity", some "v", some 3),
        ("relation-integrity", some "u", some 7)] := by
    decide +kernel
  rw [← hs, hreport] at heval
  have hshown : report.issues.map shown = _ := Except.ok.inj heval
  refine ⟨report, report', hreport, hreport', hshown, ?_⟩
  rw [hfirst] at hshown
  have hrest : rest.map shown = _ := (List.cons.inj hshown).2
  have hmove : shown ∘ Issue.renumbered (numberAfterInsert m.endLine) =
      (fun t => (t.1, t.2.1, t.2.2.map (numberAfterInsert 5))) ∘ shown := by
    rw [← hlength]
    rfl
  calc report'.issues.map shown
    _ = (rest.map shown).map fun t => (t.1, t.2.1, t.2.2.map (numberAfterInsert 5)) := by
      rw [hsecond, List.map_map, hmove, ← List.map_map]
      rfl
    _ = _ := by
      rw [hrest]
      rfl

end Lint

end SchemaAtlas

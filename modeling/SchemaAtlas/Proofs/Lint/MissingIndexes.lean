import SchemaAtlas.Lint.Registry
import SchemaAtlas.Proofs.Lists
import SchemaAtlas.Proofs.Schema.BodyFields
import SchemaAtlas.Proofs.Schema.Placement

/-!
# What the check of foreign keys finds

`IndexFindings` says, without the check, what there is to find about the foreign keys of one model:
one issue for each key that no index covers (`IsIndexed`), in the order in which the relations of the
model first name them.  The check asks for a name besides, but the foreign keys of a schema that has
been read all have one (`ne_empty_of_mem_foreignKeys`).

Main statement: the issues of the check on a schema that has been read are these findings for each of
its models in order (`indexRule_exact`).
-/

namespace SchemaAtlas

open Text

/-! ### Foreign keys that have been read -/

theorem Attribute.ne_empty_of_mem_nameList {cs : List Char} {name : String}
    (h : name ∈ nameList cs) : name ≠ "" := by
  obtain ⟨part, -, hpart⟩ := List.mem_filterMap.1 h
  split_ifs at hpart with hempty
  obtain rfl := Option.some.inj hpart
  intro hname
  exact hempty (by simpa using hname)

theorem Attribute.ne_empty_of_mem_fields {line : List Char} {r : Relation}
    (h : relation? line = some r) {key : String} (hkey : key ∈ r.fields) : key ≠ "" := by
  obtain ⟨args, -, rfl⟩ := Option.map_eq_some_iff.1 h
  simp only [relationClauses, namesOf] at hkey
  split at hkey
  · exact ne_empty_of_mem_nameList hkey
  · cases hkey

theorem Field.ne_empty_of_ofLine? {enums : List String} {number : Nat} {line : Line} {f : Field}
    (h : Field.ofLine? enums number line = some f) {key : String} (hkey : key ∈ f.foreignKeys) :
    key ≠ "" := by
  unfold Field.ofLine? at h
  split at h
  · obtain ⟨g, hg, rfl⟩ := Option.map_eq_some_iff.1 h
    obtain ⟨signature, -, rfl⟩ := Option.map_eq_some_iff.1 hg
    simp only [foreignKeys, withoutComment] at hkey
    split at hkey
    next r hr => exact Attribute.ne_empty_of_mem_fields hr hkey
    next => cases hkey
  · cases h

theorem ne_empty_of_mem_foreignKeys {lines : List Line} {m : Model}
    (hm : m ∈ (Schema.ofLines lines).models) {f : Field} (hf : f ∈ m.fields) {key : String}
    (hkey : key ∈ f.foreignKeys) : key ≠ "" := by
  obtain ⟨p, -, -, rfl⟩ := Schema.mem_models_ofLines_iff.1 hm
  obtain ⟨-, line, -, hline⟩ := mem_fieldsFrom hf
  exact Field.ne_empty_of_ofLine? hline hkey

namespace Lint

/-! ### The findings about a model -/

/-- The foreign keys as the relations of a model name them one after another. -/
def mentionedKeys (m : Model) : List String :=
  m.relationFields.flatMap fun f => f.relation.elim [] Relation.fields

/-- The field comes first in an index or a constraint of the model, or is an identifier or unique by
itself. -/
def IsIndexed (m : Model) (key : String) : Prop :=
  (∃ a, (a ∈ m.indexes ∨ a ∈ m.uniqueConstraints) ∧ ∃ others, a.leadFields = key :: others) ∨
    ∃ f ∈ m.fields, f.name = key ∧ (f.isId ∨ f.isUnique)

/-- The line of the first field of the name, if the model has one. -/
inductive IsLineOf (m : Model) (key : String) : Option Nat → Prop
  | first {before after : List Field} {f : Field} (hfields : m.fields = before ++ f :: after)
      (hname : f.name = key) (hbefore : ∀ g ∈ before, g.name ≠ key) : IsLineOf m key (some f.line)
  | missing (hfields : ∀ f ∈ m.fields, f.name ≠ key) : IsLineOf m key none

/-- The issues are what there is to find about the foreign keys of the model. -/
structure IndexFindings (m : Model) (issues : List Issue) : Prop where
  concern : ∀ issue ∈ issues, issue.rule = indexRule.id ∧ issue.severity = .warning ∧
    issue.model = m.name ∧ ∃ key, issue.field = some key ∧ IsLineOf m key issue.line
  exists_iff : ∀ key, (∃ issue ∈ issues, issue.field = some key) ↔
    key ∈ mentionedKeys m ∧ ¬ IsIndexed m key
  increasing : issues.Pairwise fun issue issue' => ∀ key ∈ issue.field, ∀ key' ∈ issue'.field,
    (mentionedKeys m).idxOf key < (mentionedKeys m).idxOf key'

section

variable {m : Model} {key : String}

theorem isCovered_iff (hne : key ≠ "") : isCovered m key ↔ IsIndexed m key := by
  have hlead : ∀ a : BlockAttribute,
      a.leadField? = some key ↔ ∃ others, a.leadFields = key :: others :=
    fun a => List.head?_eq_some_iff
  simp [isCovered, IsIndexed, Model.blockAttributes, hne, hlead, or_and_right, exists_or]

theorem isLineOf_field? (m : Model) (key : String) :
    IsLineOf m key ((m.field? key).map Field.line) := by
  cases hfield : m.field? key with
  | none =>
    refine .missing fun f hf => ?_
    simpa using List.find?_eq_none.1 hfield f hf
  | some f =>
    obtain ⟨hname, before, after, hfields, hbefore⟩ := List.find?_eq_some_iff_append.1 hfield
    exact .first hfields (by simpa using hname) (by simpa using hbefore)

theorem mentionedKeys_eq (m : Model) :
    mentionedKeys m = m.relationFields.flatMap Field.foreignKeys :=
  List.flatMap_congr fun f _ => f.foreignKeys_eq_elim.symm

theorem indexFindings_missingIndexIssues (hkeys : ∀ key ∈ mentionedKeys m, key ≠ "") :
    IndexFindings m (missingIndexIssues m) where
  concern issue h := by
    obtain ⟨key, -, rfl⟩ := List.mem_map.1 h
    exact ⟨rfl, rfl, rfl, key, rfl, isLineOf_field? m key⟩
  exists_iff key := by
    have hmem : key ∈ foreignKeys m ↔ key ∈ mentionedKeys m := by
      rw [mentionedKeys_eq]
      exact List.mem_eraseDups
    have hissue : (∃ issue ∈ missingIndexIssues m, issue.field = some key) ↔
        key ∈ foreignKeys m ∧ ¬ isCovered m key := by
      simp [missingIndexIssues, missingIndex]
    rw [hissue, hmem]
    exact and_congr_right fun hkey => not_congr (isCovered_iff (hkeys key hkey))
  increasing := by
    rw [mentionedKeys_eq]
    refine List.pairwise_map.2 (((pairwise_idxOf_eraseDups _).filter _).imp ?_)
    rintro key key' hlt _ ⟨⟩ _ ⟨⟩
    exact hlt

end

/-! ### All models -/

/-- The check of foreign keys finds what there is to find about every model, and nothing else, in the
order of the models. -/
theorem indexRule_exact (settings : LintSettings) (text : String) :
    let s := Schema.ofText text
    ∃ found : List (List Issue), indexRule.run settings s = .ok found.flatten ∧
      List.Forall₂ IndexFindings s.models found := by
  intro s
  refine ⟨s.models.map missingIndexIssues, congrArg Except.ok List.flatMap_def, ?_⟩
  rw [List.forall₂_map_right_iff, List.forall₂_same]
  intro m hm
  refine indexFindings_missingIndexIssues fun key hkey => ?_
  rw [mentionedKeys_eq] at hkey
  obtain ⟨f, hf, hkey⟩ := List.mem_flatMap.1 hkey
  exact ne_empty_of_mem_foreignKeys hm (List.mem_of_mem_filter hf) hkey

end Lint

end SchemaAtlas

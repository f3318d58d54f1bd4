import Mathlib.Data.List.DropRight
import SchemaAtlas.Lint.Registry
import SchemaAtlas.Proofs.Keyed

/-!
# Registries after changes

A registry is changed by registering rules and by clearing it, and all that it holds are the rules
that were registered since it was last cleared, put one after another (`after_eq_ofRules`).

Main statement: a registry shows these rules, each identifier once and where it was first
registered, with the rule that was last registered under it (`shows_after`).
-/

namespace SchemaAtlas.Lint

/-- A change of a registry. -/
inductive RegistryChange where
  /-- A rule is registered as it stands, with the given check if there is one. -/
  | register (rule : Rule) (check : Option Check)
  | clear

namespace RegistryChange

/-- The rule that is registered. -/
def rule? : RegistryChange → Option Rule
  | register rule check => some (rule.checkedBy check)
  | clear => none

/-- The rules that are registered since the last clear, in order. -/
def sinceClear (changes : List RegistryChange) : List Rule :=
  (changes.rtakeWhile fun change => change.rule?.isSome).filterMap rule?

theorem sinceClear_concat_register (changes : List RegistryChange) (rule : Rule)
    (check : Option Check) :
    sinceClear (changes ++ [register rule check]) =
      sinceClear changes ++ [rule.checkedBy check] := by
  rw [sinceClear, List.rtakeWhile_concat_pos _ _ _ rfl, List.filterMap_append]
  rfl

theorem sinceClear_concat_clear (changes : List RegistryChange) :
    sinceClear (changes ++ [clear]) = [] := by
  rw [sinceClear, List.rtakeWhile_concat_neg _ _ _ Bool.false_ne_true]
  rfl

end RegistryChange

namespace Registry

open RegistryChange

/-- The registry after a change. -/
def change (registry : Registry) : RegistryChange → Registry
  | .register rule check => registry.register (rule.checkedBy check)
  | .clear => registry.cleared

/-- A new registry after some changes. -/
def after (changes : List RegistryChange) : Registry :=
  changes.foldl change {}

/-- The registry shows the rules that were registered, in the order of `registered`. -/
structure Shows (registry : Registry) (registered : List Rule) : Prop where
  nodup : (registry.all.map Rule.id).Nodup
  /-- A rule stands where its identifier was first registered. -/
  ordered : (registry.all.map Rule.id).Pairwise fun id other =>
    (registered.map Rule.id).idxOf id < (registered.map Rule.id).idxOf other
  latest : ∀ id, registry.get? id = registered.reverse.find? fun rule => rule.id == id
  mem_all_iff : ∀ rule, rule ∈ registry.all ↔ registry.get? rule.id = some rule
  enabled_sublist : ∀ disabled, (registry.enabled disabled).Sublist registry.all
  mem_enabled_iff : ∀ disabled rule,
    rule ∈ registry.enabled disabled ↔ rule ∈ registry.all ∧ rule.id ∉ disabled

/-! ### Rules put one after another -/

/-- The registry of rules that are registered one after another. -/
def ofRules (registered : List Rule) : Registry :=
  ⟨.ofList (registered.map fun rule => (rule.id, rule))⟩

theorem register_ofRules (registered : List Rule) (rule : Rule) :
    (ofRules registered).register rule = ofRules (registered ++ [rule]) := by
  rw [ofRules, ofRules, List.map_append, List.map_singleton, Keyed.ofList_concat]
  rfl

/-- What a registry holds is up to the rules since the last clear. -/
theorem after_eq_ofRules (changes : List RegistryChange) :
    after changes = ofRules (sinceClear changes) := by
  induction changes using List.reverseRecOn with
  | nil => rfl
  | append_singleton changes c ih =>
    rw [after, List.foldl_concat, ← after, ih]
    cases c with
    | register rule check => rw [sinceClear_concat_register, ← register_ofRules, change]
    | clear =>
      rw [sinceClear_concat_clear]
      rfl

section

variable (registered : List Rule)

theorem get?_ofRules (id : String) :
    (ofRules registered).get? id = registered.reverse.find? fun rule => rule.id == id := by
  rw [get?, ofRules, Keyed.get?_ofList, ← List.map_reverse, Keyed.get?, List.find?_map,
    Option.map_map]
  exact congrFun Option.map_id _

theorem keys_ofRules : (ofRules registered).rules.keys = (registered.map Rule.id).eraseDups := by
  rw [ofRules, Keyed.keys_ofList, List.map_map]
  rfl

theorem get?_eq_some_iff_mem_rules {id : String} {rule : Rule} :
    (ofRules registered).get? id = some rule ↔ (id, rule) ∈ (ofRules registered).rules := by
  refine Keyed.get?_eq_some_iff_of_nodup ?_
  rw [keys_ofRules]
  exact nodup_eraseDups _

/-- A rule is under its identifier. -/
theorem id_eq_of_mem_rules {e : String × Rule} (he : e ∈ (ofRules registered).rules) :
    e.2.id = e.1 := by
  have hget := (get?_eq_some_iff_mem_rules registered).2 he
  rw [get?_ofRules] at hget
  simpa using List.find?_some hget

theorem ids_ofRules :
    (ofRules registered).all.map Rule.id = (registered.map Rule.id).eraseDups := by
  rw [all, List.map_map, ← keys_ofRules]
  exact List.map_congr_left fun e he => id_eq_of_mem_rules registered he

theorem mem_all_ofRules_iff {rule : Rule} :
    rule ∈ (ofRules registered).all ↔ (ofRules registered).get? rule.id = some rule := by
  rw [get?_eq_some_iff_mem_rules, all, List.mem_map]
  constructor
  · rintro ⟨e, he, rfl⟩
    rwa [id_eq_of_mem_rules registered he]
  · exact fun h => ⟨_, h, rfl⟩

end

/-- After any changes, a registry shows the rules that were registered since it was last cleared. -/
theorem shows_after (changes : List RegistryChange) :
    (after changes).Shows (sinceClear changes) := by
  rw [after_eq_ofRules]
  generalize sinceClear changes = registered
  constructor
  · rw [ids_ofRules]
    exact nodup_eraseDups _
  · rw [ids_ofRules]
    exact pairwise_idxOf_eraseDups _
  · exact get?_ofRules registered
  · exact fun _ => mem_all_ofRules_iff registered
  · exact fun disabled => List.filter_sublist
  · intro disabled rule
    rw [enabled, List.mem_filter, Bool.not_eq_true', ← Bool.not_eq_true, List.contains_iff_mem]

/-- A rule that is registered again stands where it stood. -/
example : let rule : String → String → Rule := fun id name => { id, name, description := "" }
    ((after [.register (rule "c" "") none, .clear, .register (rule "b" "old") none,
      .register (rule "a" "") none, .register (rule "b" "new") none]).all.map
        fun rule => (rule.id, rule.name)) = [("b", "new"), ("a", "")] := by
  rfl

end Registry

end SchemaAtlas.Lint

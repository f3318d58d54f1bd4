import SchemaAtlas.Proofs.Data.Overlay
import SchemaAtlas.Yaml.Reading

/-!
# The values of YAML texts

A mapping of a YAML text keeps one entry for keys that agree: a key that is written again replaces
the value of the first.

Main statements: in the value of a text no two keys of a mapping agree (`isWellKeyed_of_ofYaml`),
and entries of plain scalars under different names are all kept (`data_plain_eq_ok_iff`).
-/

namespace SchemaAtlas.Yaml

open Keyed

/-- Entries with well-keyed values, put one after another, make a well-keyed mapping. -/
theorem isWellKeyed_foldl_putEntry (found : List (Scalar × Data))
    (h : ∀ e ∈ found, e.2.IsWellKeyed) :
    (Data.mapping (found.foldl (fun acc e => Data.putEntry acc e.1 e.2) [])).IsWellKeyed := by
  suffices ∀ acc : List (Scalar × Data), (Data.mapping acc).IsWellKeyed →
      (Data.mapping (found.foldl (fun acc e => Data.putEntry acc e.1 e.2) acc)).IsWellKeyed by
    exact this [] (.mapping [] .nil (fun _ => nofun))
  induction found with
  | nil => exact fun _ hacc => hacc
  | cons e found ih =>
    intro acc hacc
    obtain ⟨he, hfound⟩ := List.forall_mem_cons.1 h
    exact ih hfound _ (hacc.putEntry e.1 he)

/-! ### Values of nodes -/

theorem Built.map_eq_done_iff {α β : Type} {f : α → β} {x : Built α} {b : β} :
    x.map f = .done b ↔ ∃ a, x = .done a ∧ f a = b := by
  cases x <;> simp [Built.map]

theorem Built.both_eq_done_iff {α β γ : Type} {f : α → β → γ} {x : Built α} {y : Built β} {c : γ} :
    Built.both f x y = .done c ↔ ∃ a b, x = .done a ∧ y = .done b ∧ f a b = c := by
  cases x <;> cases y <;> simp only [Built.both, reduceCtorEq, Built.done.injEq] <;>
    first | (split <;> simp) | simp

theorem Built.toExcept_eq_ok_iff {α : Type} {x : Built α} {a : α} :
    x.toExcept = .ok a ↔ x = .done a := by
  cases x <;> simp [Built.toExcept]

mutual

theorem isWellKeyed_of_build : ∀ (depth : Nat) (node : Node) (d : Data),
    node.build depth = .done d → d.IsWellKeyed
  | depth, .plain s, d, h => by
    obtain ⟨found, -, rfl⟩ := Built.map_eq_done_iff.1 h
    exact .scalar found
  | depth, .text s, d, h => by
    cases h
    exact .scalar _
  | depth, .list items, d, h => by
    obtain ⟨found, -, rfl⟩ := Built.map_eq_done_iff.1 h
    exact .list found
  | depth, .mapping entries, d, h => by
    obtain ⟨found, hfound, rfl⟩ := Built.map_eq_done_iff.1 h
    exact isWellKeyed_foldl_putEntry found
      (isWellKeyed_of_buildEntries (depth + 1) entries found hfound)

theorem isWellKeyed_of_buildEntries : ∀ (depth : Nat) (entries : List (Node × Node))
    (found : List (Scalar × Data)), Node.buildEntries depth entries = .done found →
      ∀ e ∈ found, e.2.IsWellKeyed
  | depth, [], found, h => by
    cases h
    exact fun _ => nofun
  | depth, (name, value) :: rest, found, h => by
    obtain ⟨e, more, he, hmore, rfl⟩ := Built.both_eq_done_iff.1 h
    obtain ⟨key, d, -, hd, rfl⟩ := Built.both_eq_done_iff.1 he
    rw [List.forall_mem_cons]
    exact ⟨isWellKeyed_of_build depth value d hd,
      isWellKeyed_of_buildEntries depth rest more hmore⟩

end

/-- No two keys of a mapping in the value of a text agree. -/
theorem isWellKeyed_of_ofYaml {s : String} {d : Data} (h : Data.ofYaml s = .ok d) :
    d.IsWellKeyed := by
  rw [Data.ofYaml] at h
  split at h
  · rename_i node _
    exact isWellKeyed_of_build 0 _ _ (Built.toExcept_eq_ok_iff.1 h)
  · cases h

/-! ### Plain scalars that are texts -/

theorem ne_text_of_map {α ε : Type} {f : α → Scalar} (hf : ∀ a t, f a ≠ .text t)
    (x : Except ε α) (t : String) : x.map f ≠ .ok (.text t) := by
  cases x with
  | error fault => exact nofun
  | ok a => exact fun h => hf a t (Except.ok.inj h)

theorem dateText?_ne_text {cs : List Char} {t : String} : dateText? cs ≠ some (.ok (.text t)) := by
  intro h
  simp only [dateText?, Option.bind_eq_bind, Option.bind_eq_some_iff] at h
  obtain ⟨year, -, month, -, day, -, h⟩ := h
  split at h
  · exact ne_text_of_map (fun _ _ => Scalar.noConfusion) _ t (Option.some.inj h)
  · cases h

theorem momentText?_ne_text {cs : List Char} {t : String} :
    momentText? cs ≠ some (.ok (.text t)) := by
  intro h
  simp only [momentText?, Option.bind_eq_bind, Option.bind_eq_some_iff] at h
  obtain ⟨year, -, month, -, day, -, rest, -, time, -, h⟩ := h
  exact ne_text_of_map (fun _ _ => Scalar.noConfusion) _ t (Option.some.inj h)

/-- A plain scalar that stands for a text stands for itself. -/
theorem eq_of_ofText_eq_text {s t : String} (h : Plain.ofText s = .value (.text t)) : t = s := by
  rw [Plain.ofText] at h
  dsimp only at h
  split at h
  · cases h
  split at h
  · cases h
  split at h
  · cases h
  split at h
  · rename_i found hfound
    obtain ⟨form, hform, hsome⟩ := List.exists_of_findSome?_eq_some hfound
    obtain rfl : found = .ok (.text t) := by
      cases found with
      | error fault => cases h
      | ok value => exact congrArg Except.ok (Plain.value.inj h)
    obtain rfl : form = some (.ok (.text t)) := hsome
    simp only [List.mem_cons, List.not_mem_nil, or_false] at hform
    rcases hform with hform | hform | hform | hform | hform
    · obtain ⟨b, -, hb⟩ := Option.map_eq_some_iff.1 hform.symm
      cases hb
    · obtain ⟨n, -, hn⟩ := Option.map_eq_some_iff.1 hform.symm
      exact absurd hn (ne_text_of_map (fun _ _ => Scalar.noConfusion) n t)
    · obtain ⟨x, -, hx⟩ := Option.map_eq_some_iff.1 hform.symm
      cases hx
    · exact absurd hform.symm dateText?_ne_text
    · exact absurd hform.symm momentText?_ne_text
  · exact (Scalar.text.inj (Plain.value.inj h)).symm

/-! ### Entries of plain scalars -/

/-- The value that a plain scalar stands for. -/
def StandsFor (s : String) (d : Data) : Prop :=
  ∃ v, Plain.ofText s = .value v ∧ d = .scalar v

/-- The entry that a plain name and a plain value stand for. -/
def IsEntryOf (e : String × String) (f : Scalar × Data) : Prop :=
  f.1 = .text e.1 ∧ StandsFor e.2 f.2

section

variable {entries : List (String × String)} {found : List (Scalar × Data)}

theorem scalarOf_eq_done_iff {depth : Nat} {s : String} {v : Scalar} :
    Node.scalarOf depth false s = .done v ↔ Plain.ofText s = .value v := by
  rw [Node.scalarOf]
  split <;> simp_all

theorem keys_of_isEntryOf (h : List.Forall₂ IsEntryOf entries found) :
    Keyed.keys found = entries.map fun e => .text e.1 := by
  induction h with
  | nil => rfl
  | cons he _ ih => exact congrArg₂ List.cons he.1 ih

theorem buildEntries_plain_eq_done_iff
    (hnames : ∀ e ∈ entries, Plain.ofText e.1 = .value (.text e.1)) {depth : Nat} :
    Node.buildEntries depth (entries.map fun e => (.plain e.1, .plain e.2)) = .done found ↔
      List.Forall₂ IsEntryOf entries found := by
  induction entries generalizing found with
  | nil => simp [Node.buildEntries, eq_comm]
  | cons e entries ih =>
    obtain ⟨hname, hmore⟩ := List.forall_mem_cons.1 hnames
    have hkey : Node.key depth (.plain e.1) = .done (.text e.1) := by
      rw [Node.key, Node.scalarOf, hname]
    rw [List.map_cons, Node.buildEntries, Built.both_eq_done_iff, hkey]
    constructor
    · rintro ⟨f, found, hf, hfound, rfl⟩
      obtain ⟨key, d, hkey, hd, rfl⟩ := Built.both_eq_done_iff.1 hf
      obtain rfl := Built.done.inj hkey
      obtain ⟨v, hv, rfl⟩ := Built.map_eq_done_iff.1 hd
      exact .cons ⟨rfl, v, scalarOf_eq_done_iff.1 hv, rfl⟩ ((ih hmore).1 hfound)
    · intro h
      obtain ⟨⟨key, d⟩, found, ⟨rfl, v, hv, rfl⟩, hfound, rfl⟩ := List.forall₂_cons_left_iff.1 h
      refine ⟨_, found, Built.both_eq_done_iff.2 ⟨_, _, rfl, ?_, rfl⟩, (ih hmore).2 hfound, rfl⟩
      exact Built.map_eq_done_iff.2 ⟨v, scalarOf_eq_done_iff.2 hv, rfl⟩

/-- Entries under distinct keys stay as they are. -/
theorem foldl_putEntry_of_distinct (h : Data.HasDistinctKeys found) :
    found.foldl (fun acc e => Data.putEntry acc e.1 e.2) [] = found := by
  induction found using List.reverseRecOn with
  | nil => rfl
  | append_singleton found e ih =>
    obtain ⟨hfound, -, hlast⟩ := Data.hasDistinctKeys_append_iff.1 h
    rw [List.foldl_append, ih hfound]
    exact Data.putEntry_of_not_agrees (fun f hf => hlast f hf e List.mem_cons_self) e.2

theorem hasDistinctKeys_of_isEntryOf (hnodup : (entries.map Prod.fst).Nodup)
    (h : List.Forall₂ IsEntryOf entries found) : Data.HasDistinctKeys found := by
  refine Data.hasDistinctKeys_of_nodup hnodup ?_
  rw [keys_of_isEntryOf h, List.map_map]
  rfl

/-- Without a merge sign all entries stay in their place. -/
theorem withMerged_eq_self {nodes : List (Node × Node)} (h : ∀ e ∈ nodes, e.1.isMerge = false) :
    Node.withMerged nodes = nodes := by
  have hmerges : nodes.filter (fun e => e.1.isMerge) = [] :=
    List.filter_eq_nil_iff.2 fun e he => by simp [h e he]
  have hown : nodes.filter (fun e => !e.1.isMerge) = nodes :=
    List.filter_eq_self.2 fun e he => by simp [h e he]
  rw [Node.withMerged, List.partition_eq_filter_filter]
  dsimp only [Function.comp_def]
  rw [hmerges, hown]
  rfl

theorem expanded_plain (hnames : ∀ e ∈ entries, Plain.ofText e.1 = .value (.text e.1)) :
    (Node.mapping (entries.map fun e => (.plain e.1, .plain e.2))).expanded =
      .mapping (entries.map fun e => (.plain e.1, .plain e.2)) := by
  have hsame : Node.expandedEntries (entries.map fun e => (.plain e.1, .plain e.2)) =
      entries.map fun e => (.plain e.1, .plain e.2) := by
    clear hnames
    induction entries with
    | nil => rfl
    | cons e entries ih =>
      rw [List.map_cons, Node.expandedEntries, ih]
      rfl
  rw [Node.expanded, hsame, withMerged_eq_self]
  intro node hnode
  obtain ⟨e, he, rfl⟩ := List.mem_map.1 hnode
  refine beq_eq_false_iff_ne.2 fun hsign => ?_
  have hname := hnames e he
  rw [hsign] at hname
  cases hname

/-- A mapping of plain names and values has a value if its values have. -/
theorem data_plain_eq_ok_iff (hnames : ∀ e ∈ entries, Plain.ofText e.1 = .value (.text e.1))
    (hnodup : (entries.map Prod.fst).Nodup) {d : Data} :
    (Node.mapping (entries.map fun e => (.plain e.1, .plain e.2))).data = .ok d ↔
      ∃ found, List.Forall₂ IsEntryOf entries found ∧ .mapping found = d := by
  rw [Node.data, expanded_plain hnames, Built.toExcept_eq_ok_iff, Node.build, Built.map_eq_done_iff]
  refine exists_congr fun found => ?_
  rw [buildEntries_plain_eq_done_iff hnames]
  refine and_congr_right fun hfound => ?_
  rw [foldl_putEntry_of_distinct (hasDistinctKeys_of_isEntryOf hnodup hfound)]

end

end SchemaAtlas.Yaml

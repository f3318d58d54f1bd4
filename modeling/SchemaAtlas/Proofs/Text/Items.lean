import SchemaAtlas.Proofs.Text.Searching

/-!
# Items of a text

A text can be made of items with commas or blanks between them, where `Spells a cs` says that `cs`
is a way to write the item `a`.  A search `Finds` the value of an item if it succeeds at the start
of the item, with that value, and nowhere in an item without a value.  So it finds the first value
that there is in a list of items, which stands between commas (`CommaSeparated.firstFrom?_eq`) or
behind blanks (`firstFrom?_flatMap`).
-/

namespace SchemaAtlas.Text

variable {α β : Type} {Spells : α → List Char → Prop}

/-- What can stand between two items. -/
def IsGap (c : Char) : Prop :=
  c = ',' ∨ isBlank c

/-- The item in front of the text does not go on in it. -/
def EndsItem (rest : List Char) : Prop :=
  ∀ c ∈ rest.head?, IsGap c

/-- The items in order, with a comma and any blanks between neighbours. -/
inductive CommaSeparated (Spells : α → List Char → Prop) : List α → List Char → Prop
  | nil : CommaSeparated Spells [] []
  | single {a : α} {cs : List Char} (h : Spells a cs) : CommaSeparated Spells [a] cs
  | cons {a b : α} {as : List α} {cs blanks blanks' rest : List Char} (h : Spells a cs)
      (hblanks : ∀ c ∈ blanks, isBlank c) (hblanks' : ∀ c ∈ blanks', isBlank c)
      (hrest : CommaSeparated Spells (b :: as) rest) :
      CommaSeparated Spells (a :: b :: as) (cs ++ ((blanks ++ ',' :: blanks') ++ rest))

theorem isGap_of_mem {blanks blanks' : List Char} (hblanks : ∀ c ∈ blanks, isBlank c)
    (hblanks' : ∀ c ∈ blanks', isBlank c) : ∀ c ∈ blanks ++ ',' :: blanks', IsGap c := by
  intro c hc
  obtain hc | rfl | hc := by simpa using hc
  · exact .inr (hblanks c hc)
  · exact .inl rfl
  · exact .inr (hblanks' c hc)

theorem not_isWord_of_isGap {c : Char} (h : IsGap c) : ¬ isWord c := by
  rcases h with rfl | h
  · decide
  · exact fun hword => not_isBlank_of_isWord hword h

theorem endsItem_nil : EndsItem [] := by
  simp [EndsItem]

theorem endsItem_append {gap : List Char} (hne : gap ≠ []) (hgap : ∀ c ∈ gap, IsGap c)
    (rest : List Char) : EndsItem (gap ++ rest) := by
  intro c hc
  rw [List.head?_append_of_ne_nil _ hne] at hc
  exact hgap c (List.mem_of_mem_head? hc)

theorem isGap_blank : ∀ c ∈ [' '], IsGap c := by
  simp [IsGap, isBlank]

theorem endsItem_flatMap (texts : List (List Char)) : EndsItem (texts.flatMap (' ' :: ·)) := by
  cases texts with
  | nil => exact endsItem_nil
  | cons cs texts => exact endsItem_append (List.cons_ne_nil _ _) isGap_blank (cs ++ _)

namespace CommaSeparated

variable {as : List α} {cs : List Char}

/-- The text starts with its first item. -/
theorem exists_first {a : α} (h : CommaSeparated Spells (a :: as) cs) :
    ∃ first rest, cs = first ++ rest ∧ Spells a first ∧ EndsItem rest := by
  cases h with
  | single h => exact ⟨cs, [], (List.append_nil cs).symm, h, endsItem_nil⟩
  | cons h hblanks hblanks' _ =>
    exact ⟨_, _, rfl, h, endsItem_append (by simp) (isGap_of_mem hblanks hblanks') _⟩

/-- What holds of the items and of the gaps holds of the text, if it holds of two texts together. -/
theorem closed {P : List Char → Prop} (hnil : P [])
    (happend : ∀ {cs ds}, P cs → P ds → P (cs ++ ds))
    (hgap : ∀ {gap}, (∀ c ∈ gap, IsGap c) → P gap)
    (hitem : ∀ a ∈ as, ∀ cs, Spells a cs → P cs) (h : CommaSeparated Spells as cs) : P cs := by
  induction h with
  | nil => exact hnil
  | single h => exact hitem _ List.mem_cons_self _ h
  | cons h hblanks hblanks' _ ih =>
    have hrest := ih fun a ha => hitem a (List.mem_cons_of_mem _ ha)
    exact happend (hitem _ List.mem_cons_self _ h)
      (happend (hgap (isGap_of_mem hblanks hblanks')) hrest)

theorem unpadded (hitem : ∀ a ∈ as, ∀ cs, Spells a cs → Unpadded cs) (hne : as ≠ [])
    (h : CommaSeparated Spells as cs) : Unpadded cs := by
  induction h with
  | nil => exact absurd rfl hne
  | single h => exact hitem _ List.mem_cons_self _ h
  | cons h _ _ _ ih =>
    have hrest := ih (fun a ha => hitem a (List.mem_cons_of_mem _ ha)) (List.cons_ne_nil _ _)
    exact (hitem _ List.mem_cons_self _ h).append hrest _

end CommaSeparated

/-! ### Searching -/

/-- `read` succeeds at the start of each item that has a value and nowhere else. -/
structure Finds (Spells : α → List Char → Prop) (read : Option Char → List Char → Option β)
    (value : α → Option β) : Prop where
  nil : ∀ before, read before [] = none
  gap : ∀ before {c}, IsGap c → ∀ rest, read before (c :: rest) = none
  hit : ∀ {a cs b}, Spells a cs → value a = some b → ∀ {before rest}, before.any isWord = false →
    EndsItem rest → read before (cs ++ rest) = some b
  miss : ∀ {a cs}, Spells a cs → value a = none → ∀ {before here rest}, here ≠ [] → here <:+ cs →
    EndsItem rest → read before (here ++ rest) = none

section

variable {read : Option Char → List Char → Option β} {value : α → Option β}

theorem findSome?_cons_or (value : α → Option β) (a : α) (as : List α) :
    (a :: as).findSome? value = (value a).or (as.findSome? value) := by
  rw [List.findSome?_cons]
  cases value a <;> rfl

theorem any_isWord_getLast? {gap : List Char} (hne : gap ≠ []) (hgap : ∀ c ∈ gap, IsGap c)
    (before : Option Char) : (gap.getLast?.or before).any isWord = false := by
  rw [List.getLast?_eq_some_getLast hne]
  simpa using not_isWord_of_isGap (hgap _ (List.getLast_mem hne))

theorem Finds.firstFrom?_item (hfinds : Finds Spells read value) {a : α} {cs rest : List Char}
    (h : Spells a cs) {before : Option Char} (hbefore : before.any isWord = false)
    (hrest : EndsItem rest) :
    firstFrom? read before (cs ++ rest) =
      (value a).or (firstFrom? read (cs.getLast?.or before) rest) := by
  cases hvalue : value a with
  | none => exact firstFrom?_append fun _ _ hne hhere => hfinds.miss h hvalue hne hhere hrest
  | some b => exact firstFrom?_eq_some (hfinds.hit h hvalue hbefore hrest)

theorem Finds.firstFrom?_gap (hfinds : Finds Spells read value) {gap : List Char}
    (hgap : ∀ c ∈ gap, IsGap c) (before : Option Char) (rest : List Char) :
    firstFrom? read before (gap ++ rest) = firstFrom? read (gap.getLast?.or before) rest := by
  refine firstFrom?_append fun before here hne hhere => ?_
  obtain ⟨c, here, rfl⟩ := List.exists_cons_of_ne_nil hne
  exact hfinds.gap before (hgap c (hhere.mem List.mem_cons_self)) _

theorem CommaSeparated.firstFrom?_eq (hfinds : Finds Spells read value) {as : List α}
    {cs : List Char} (h : CommaSeparated Spells as cs) {before : Option Char}
    (hbefore : before.any isWord = false) : firstFrom? read before cs = as.findSome? value := by
  induction h generalizing before with
  | nil => exact hfinds.nil before
  | @single a cs h =>
    have hitem := hfinds.firstFrom?_item h hbefore endsItem_nil
    have hnil : firstFrom? read (cs.getLast?.or before) [] = none := hfinds.nil _
    rw [List.append_nil, hnil, Option.or_none] at hitem
    rw [hitem, List.findSome?_singleton]
  | cons h hblanks hblanks' _ ih =>
    have hgap := isGap_of_mem hblanks hblanks'
    have hne : ∀ {front back : List Char}, front ++ ',' :: back ≠ [] := by simp
    rw [hfinds.firstFrom?_item h hbefore (endsItem_append hne hgap _),
      hfinds.firstFrom?_gap hgap, ih (any_isWord_getLast? hne hgap _), ← findSome?_cons_or]

theorem firstFrom?_flatMap (hfinds : Finds Spells read value) {as : List α}
    {texts : List (List Char)} (h : List.Forall₂ Spells as texts) (before : Option Char) :
    firstFrom? read before (texts.flatMap (' ' :: ·)) = as.findSome? value := by
  induction h generalizing before with
  | nil => exact hfinds.nil before
  | @cons a cs as texts hspells _ ih =>
    have hgap : firstFrom? read before (' ' :: (cs ++ texts.flatMap (' ' :: ·))) =
        firstFrom? read (some ' ') (cs ++ texts.flatMap (' ' :: ·)) :=
      hfinds.firstFrom?_gap isGap_blank before _
    rw [List.flatMap_cons, List.cons_append, hgap,
      hfinds.firstFrom?_item hspells (by decide) (endsItem_flatMap texts), ih, ← findSome?_cons_or]

end

end SchemaAtlas.Text

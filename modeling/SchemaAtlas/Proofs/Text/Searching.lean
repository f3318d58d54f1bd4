import SchemaAtlas.Proofs.Text.Words

/-!
# Searching a text in parts

Where a text is cut at a character that no success can reach across, the search goes through the
part in front of it and then through the part behind it (`firstFrom?_append_cons`).  A part in which
the word does not occur that every success begins with is passed over (`first?_append_quoted`), and
the text behind a word is that behind its first occurrence (`afterFirst?_append`).
-/

namespace SchemaAtlas.Text

variable {α : Type} {read : Option Char → List Char → Option α}

theorem eq_append_of_after? {word : String} {cs rest : List Char} (h : after? word cs = some rest) :
    cs = word.toList ++ rest :=
  (List.isPrefixOf?_eq_some_iff_append_eq.1 h).symm

theorem after?_nil {word : String} (hne : word.toList ≠ []) : after? word [] = none := by
  cases hafter : after? word [] with
  | none => rfl
  | some rest => exact absurd (List.append_eq_nil_iff.1 (eq_append_of_after? hafter).symm).1 hne

theorem after?_eq_none {word : String} {cs here : List Char} (h : ¬ word.toList <:+: cs)
    (hhere : here <:+ cs) : after? word here = none := by
  cases hafter : after? word here with
  | none => rfl
  | some rest =>
    obtain rfl := eq_append_of_after? hafter
    exact absurd ((List.prefix_append _ _).isInfix.trans hhere.isInfix) h

theorem getLast?_cons_or (c : Char) (front : List Char) (before : Option Char) :
    (c :: front).getLast?.or before = front.getLast?.or (some c) := by
  rw [List.getLast?_cons]
  cases front.getLast? <;> rfl

theorem firstFrom?_append_of_none {before : Option Char} {cs : List Char} {c : Char}
    {rest : List Char} (h : ∀ before here, here <:+ cs → read before (here ++ c :: rest) = none) :
    firstFrom? read before (cs ++ c :: rest) = firstFrom? read (some c) rest := by
  induction cs generalizing before with
  | nil =>
    have hhere : read before (c :: rest) = none := h before [] List.nil_suffix
    simp only [List.nil_append, firstFrom?, hhere]
  | cons d cs ih =>
    have hhere : read before (d :: (cs ++ c :: rest)) = none := h before (d :: cs) List.suffix_rfl
    simp only [List.cons_append, firstFrom?, hhere]
    exact ih fun before here hsuffix => h before here (hsuffix.trans (List.suffix_cons d cs))

/-- A search goes on behind a part of the text in which it has no success. -/
theorem firstFrom?_append {before : Option Char} {cs rest : List Char}
    (h : ∀ before here, here ≠ [] → here <:+ cs → read before (here ++ rest) = none) :
    firstFrom? read before (cs ++ rest) = firstFrom? read (cs.getLast?.or before) rest := by
  induction cs generalizing before with
  | nil => rfl
  | cons c cs ih =>
    have hhere : read before (c :: (cs ++ rest)) = none :=
      h before (c :: cs) (List.cons_ne_nil c cs) List.suffix_rfl
    simp only [List.cons_append, firstFrom?, hhere, getLast?_cons_or]
    exact ih fun before here hne hsuffix =>
      h before here hne (hsuffix.trans (List.suffix_cons c cs))

theorem firstFrom?_eq_some {before : Option Char} {cs : List Char} {a : α}
    (h : read before cs = some a) : firstFrom? read before cs = some a := by
  cases cs with
  | nil => exact h
  | cons c cs => simp only [firstFrom?, h]

theorem map_firstFrom? {β : Type} (f : α → β) (before : Option Char) (cs : List Char) :
    (firstFrom? read before cs).map f =
      firstFrom? (fun before here => (read before here).map f) before cs := by
  induction cs generalizing before with
  | nil => rfl
  | cons c cs ih =>
    simp only [firstFrom?]
    cases read before (c :: cs) with
    | none => exact ih (some c)
    | some a => rfl

/-- A search through a text that is cut at a character finds the first success in front of it, which
`f` takes over into the whole text, or else the first one behind it. -/
theorem firstFrom?_append_cons (hnil : ∀ before, read before [] = none) (f : α → α)
    {before : Option Char} {cs : List Char} {c : Char} {rest : List Char}
    (h : ∀ front here, cs = front ++ here → read (front.getLast?.or before) (here ++ c :: rest) =
      (read (front.getLast?.or before) here).map f) :
    firstFrom? read before (cs ++ c :: rest) =
      ((firstFrom? read before cs).map f).or (firstFrom? read (some c) rest) := by
  induction cs generalizing before with
  | nil =>
    have hhere : read before (c :: rest) = (read before []).map f := h [] [] rfl
    rw [hnil, Option.map_none] at hhere
    simp only [List.nil_append, firstFrom?, hhere, hnil, Option.map_none, Option.none_or]
  | cons d cs ih =>
    have hhere : read before (d :: (cs ++ c :: rest)) = (read before (d :: cs)).map f :=
      h [] (d :: cs) rfl
    have htail := ih fun front here hcs => by
      rw [← getLast?_cons_or d front before]
      exact h (d :: front) here (congrArg (d :: ·) hcs)
    simp only [List.cons_append, firstFrom?, hhere, htail]
    cases read before (d :: cs) <;> rfl

theorem firstFrom?_const (read : List Char → Option α) (before : Option Char) (cs : List Char) :
    firstFrom? (fun _ => read) before cs = first? (fun _ => read) cs := by
  cases cs <;> rfl

theorem afterFirst?_eq_none {word : String} {cs : List Char} (h : ¬ word.toList <:+: cs) :
    afterFirst? word cs = none := by
  have hfrom : ∀ here, here <:+ cs → ∀ before,
      firstFrom? (fun _ => after? word) before here = none := by
    intro here hhere
    induction here with
    | nil => exact fun _ => after?_eq_none h hhere
    | cons c here ih =>
      intro before
      simp only [firstFrom?, after?_eq_none h hhere]
      exact ih ((List.suffix_cons c here).trans hhere) (some c)
  exact hfrom cs List.suffix_rfl none

theorem afterFirst?_append_cons {word : String} (hne : word.toList ≠ []) {c : Char}
    (hc : c ∉ word.toList) (cs rest : List Char) :
    afterFirst? word (cs ++ c :: rest) =
      ((afterFirst? word cs).map (· ++ c :: rest)).or (afterFirst? word rest) := by
  have hsplit : afterFirst? word (cs ++ c :: rest) = _ :=
    firstFrom?_append_cons (fun _ => after?_nil hne) (· ++ c :: rest)
      fun _ here _ => after?_append_cons hc here rest
  rw [hsplit, firstFrom?_const _ (some c)]
  rfl

/-- Behind a text that does not hold it, a word is found where it is put, if what it begins with
occurs nowhere else in it. -/
theorem afterFirst?_append {word : String} {c : Char} {tail : List Char}
    (hword : word.toList = c :: tail) (hc : c ∉ tail) {front : List Char}
    (hfront : ¬ word.toList <:+: front) (rest : List Char) :
    afterFirst? word (front ++ (word.toList ++ rest)) = some rest := by
  have hnone : ∀ here, here ≠ [] → here <:+ front →
      after? word (here ++ (word.toList ++ rest)) = none := by
    intro here hne hhere
    refine Option.eq_none_iff_forall_ne_some.2 fun behind hafter => ?_
    obtain ⟨part, hpart, hrest⟩ | ⟨part, rfl, -⟩ :=
      List.append_eq_append_iff.1 (eq_append_of_after? hafter)
    · obtain ⟨d, here, rfl⟩ := List.exists_cons_of_ne_nil hne
      cases part with
      | nil => exact hfront (hpart ▸ List.append_nil _ ▸ hhere.isInfix)
      | cons e part =>
        -- the word would begin inside itself
        rw [hword, List.cons_append] at hrest hpart
        obtain rfl := (List.cons.inj hrest).1
        exact hc ((List.cons.inj hpart).2 ▸ List.mem_append_right here List.mem_cons_self)
    · exact hfront ((List.prefix_append _ _).isInfix.trans hhere.isInfix)
  have hskip : afterFirst? word (front ++ (word.toList ++ rest)) = _ :=
    firstFrom?_append fun _ => hnone
  rw [hskip]
  exact firstFrom?_eq_some (after?_append word rest)

/-- A search for what begins with `word` passes over a part between two characters that are no part
of `word`, if `word` does not occur there. -/
theorem first?_append_quoted {word : String} (hnil : ∀ before, read before [] = none)
    (hword : ∀ before here, after? word here = none → read before here = none) {quote : Char}
    (hquote : quote ∉ word.toList) {front inner : List Char}
    (hfront : ∀ part here more, front = part ++ here →
      read part.getLast? (here ++ quote :: more) = read part.getLast? here)
    (hinner : ¬ word.toList <:+: inner) (rest : List Char) :
    first? read (front ++ quote :: (inner ++ quote :: rest)) =
      (first? read front).or (firstFrom? read (some quote) rest) := by
  have hinside : firstFrom? read (some quote) (inner ++ quote :: rest) =
      firstFrom? read (some quote) rest := by
    refine firstFrom?_append_of_none fun before here hhere => hword before _ ?_
    rw [after?_append_cons hquote, after?_eq_none hinner hhere, Option.map_none]
  have hsplit : firstFrom? read none (front ++ quote :: (inner ++ quote :: rest)) = _ :=
    firstFrom?_append_cons hnil id fun part here hpart => by
      rw [Option.or_none, hfront part here _ hpart, Option.map_id]
      rfl
  rw [first?, hsplit, hinside, Option.map_id]
  rfl

theorem afterFirst?_trimLeft {word : String} (hne : word.toList ≠ [])
    (hword : ∀ c ∈ word.toList, ¬ isBlank c) (cs : List Char) :
    afterFirst? word (trimLeft cs) = afterFirst? word cs := by
  induction cs with
  | nil => rfl
  | cons c cs ih =>
    by_cases hc : isBlank c
    · have hleft : trimLeft (c :: cs) = trimLeft cs := List.dropWhile_cons_of_pos hc
      have hafter : after? word (c :: cs) = none := by
        cases hafter : after? word (c :: cs) with
        | none => rfl
        | some rest =>
          obtain ⟨d, tail, htail⟩ := List.exists_cons_of_ne_nil hne
          have heq := eq_append_of_after? hafter
          rw [htail, List.cons_append] at heq
          obtain rfl := (List.cons.inj heq).1
          exact absurd hc (hword c (by simp [htail]))
      rw [hleft, ih]
      simp only [afterFirst?, first?, firstFrom?, hafter]
      exact (firstFrom?_const _ (some c) cs).symm
    · have hleft : trimLeft (c :: cs) = c :: cs := List.dropWhile_cons_of_neg hc
      rw [hleft]

theorem cutFirst?_append_cons {c : Char} {front : List Char} (h : c ∉ front) (back : List Char) :
    cutFirst? c (front ++ c :: back) = some (front, back) := by
  induction front with
  | nil => simp [cutFirst?]
  | cons d front ih =>
    obtain ⟨hne, hmem⟩ := List.ne_and_not_mem_of_not_mem_cons h
    rw [List.cons_append, cutFirst?, if_neg (Ne.symm hne), ih hmem]
    rfl

theorem cutFirst?_append_of_mem {c : Char} {cs : List Char} (h : c ∈ cs) (rest : List Char) :
    cutFirst? c (cs ++ rest) = (cutFirst? c cs).map fun cut => (cut.1, cut.2 ++ rest) := by
  induction cs with
  | nil => cases h
  | cons d cs ih =>
    by_cases hd : d = c
    · simp [cutFirst?, hd]
    · have hmem : c ∈ cs := (List.mem_cons.1 h).resolve_left (Ne.symm hd)
      simp only [List.cons_append, cutFirst?, if_neg hd, ih hmem, Option.map_map]
      rfl

end SchemaAtlas.Text

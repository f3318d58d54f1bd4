import SchemaAtlas.Proofs.Yaml.LineScalars

/-!
# Plain scalars of one line

A plain scalar is read part by part, from blank to blank (`plainFrom_part`), and the blanks and line
ends behind it are passed too (`plainGap_break`).

Main statement: a scalar is read as it is, up to the place where it ends (`plainText_text`).
-/

namespace SchemaAtlas.Yaml

/-! ### Parts of a scalar -/

section

variable {part rest : List Char}

theorem plainLength_of_isGap (h : isGap rest.head?) : plainLength false rest = 0 := by
  cases rest with
  | nil => rfl
  | cons d rest =>
    have hd : isGap (some d) := h
    simp [plainLength, hd]

/-- A part ends where no further part begins. -/
theorem plainLength_append (hpart : ∀ d ∈ part, ¬ isGap (some d))
    (hlast : part.getLast? = some ':' → ¬ isGap rest.head?) (hrest : plainLength false rest = 0) :
    plainLength false (part ++ rest) = part.length := by
  induction part with
  | nil => exact hrest
  | cons d part ih =>
    obtain ⟨hd, hmore⟩ := List.forall_mem_cons.1 hpart
    have hcolon : ¬ (d = ':' ∧ isGap (part ++ rest).head?) := by
      rintro ⟨rfl, hgap⟩
      cases part with
      | nil => exact hlast rfl hgap
      | cons e part => exact hmore e List.mem_cons_self hgap
    have hlast : part.getLast? = some ':' → ¬ isGap rest.head? := by
      cases part with
      | nil => exact nofun
      | cons e part => simpa using hlast
    rw [List.cons_append, plainLength, List.length_cons, ← ih hmore hlast]
    simpa [hd] using hcolon

end

/-! ### Line ends behind a scalar -/

/-- Whatever follows is no part of the line ends in front of it. -/
def EndsBreaks (rest : List Char) : Prop :=
  (∀ d ∈ rest.head?, d ≠ ' ' ∧ ¬ isBreak d) ∧ ¬ (Cursor.lineStart rest 0).atMarker

theorem breaksFrom_replicate {rest : List Char} {k fuel : Nat} {c : Cursor}
    (hrest : EndsBreaks rest) (h : c.rest = List.replicate k '\n' ++ rest) (hcolumn : c.column = 0)
    (hfuel : k < fuel) :
    breaksFrom (· == ' ') fuel c =
      some (List.replicate k '\n', { c with rest := rest, line := c.line + k }) := by
  induction k generalizing c fuel with
  | zero =>
    obtain ⟨fuel, rfl⟩ : ∃ m, fuel = m + 1 := ⟨fuel - 1, by omega⟩
    obtain rfl : c.rest = rest := h
    have hmarker : ¬ c.atMarker := by
      have hmark := hrest.2
      simpa [Cursor.atMarker, Cursor.lineStart, hcolumn] using hmark
    have hskip : c.skip (· == ' ') = c := Cursor.skip_of_head? fun d hd => by
      simpa using (hrest.1 d hd).1
    rw [breaksFrom, if_neg hmarker]
    dsimp only
    rw [hskip]
    cases hhead : c.head? with
    | none => rfl
    | some d =>
      dsimp only
      rw [if_neg (hrest.1 d hhead).2]
      rfl
  | succ k ih =>
    obtain ⟨fuel, rfl⟩ : ∃ m, fuel = m + 1 := ⟨fuel - 1, by omega⟩
    have hcons : c.rest = '\n' :: (List.replicate k '\n' ++ rest) := h
    have hmarker : ¬ c.atMarker := by
      simp [Cursor.atMarker, hcons]
    have hskip : c.skip (· == ' ') = c := Cursor.skip_of_head? (by simp [hcons])
    have hnext := Cursor.next_break hcons rfl
    have hbreaks := @ih fuel c.next (by rw [hnext]) (by rw [hnext]) (by omega)
    rw [breaksFrom, if_neg hmarker]
    dsimp only
    rw [hskip, Cursor.head?, hcons]
    dsimp only [List.head?_cons]
    have hbreak : isBreak '\n' := rfl
    rw [if_pos hbreak, hbreaks, hnext]
    simp [List.replicate_succ, hcolumn, Nat.add_comm, Nat.add_left_comm]

/-! ### The scalar -/

section

variable {cs rest : List Char} {k fuel : Nat} {least : Int} {c : Cursor}

/-- Behind a scalar blanks and line ends are passed too. -/
theorem plainGap_break {blanks : List Char} (hrest : EndsBreaks rest)
    (hblanks : ∀ d ∈ blanks, d = ' ')
    (h : c.rest = blanks ++ '\n' :: (List.replicate k '\n' ++ rest)) :
    plainGap c = (foldedBreaks '\n' (List.replicate k '\n'),
      { c with rest := rest, column := 0, line := c.line + 1 + k, nameAllowed := true }) := by
  have hbreak : isBreak '\n' := rfl
  have hline : ∀ d ∈ blanks, ¬ isBreak d := by
    intro d hd
    rw [hblanks d hd]
    exact Bool.false_ne_true
  have htake : (blanks ++ '\n' :: (List.replicate k '\n' ++ rest)).takeWhile (· == ' ') = blanks :=
    Cursor.takeWhile_append (by simpa using hblanks) (by simp)
  have hbreaks := @breaksFrom_replicate rest k ((List.replicate k '\n' ++ rest).length + 1)
    { c with
      rest := List.replicate k '\n' ++ rest
      column := 0
      line := c.line + 1
      nameAllowed := true } hrest rfl rfl (by rw [List.length_append, List.length_replicate]; omega)
  simp only [plainGap, h, htake, Cursor.advance_append h hline, Cursor.head?, List.head?_cons,
    hbreak, if_true]
  rw [Cursor.next_break rfl hbreak]
  simp only [hbreaks]

/-- Blanks inside a scalar are kept. -/
theorem plainGap_blanks {blanks : List Char} (h : c.rest = blanks ++ rest)
    (hblanks : ∀ d ∈ blanks, d = ' ') (hrest : ∀ d ∈ rest.head?, d ≠ ' ' ∧ ¬ isBreak d) :
    plainGap c = (blanks, { c with rest := rest, column := c.column + width blanks }) := by
  have htake : c.rest.takeWhile (· == ' ') = blanks := by
    rw [h]
    exact Cursor.takeWhile_append (by simpa using hblanks) fun d hd => by simpa using (hrest d hd).1
  have hline : ∀ d ∈ blanks, ¬ isBreak d := by
    intro d hd
    rw [hblanks d hd]
    exact Bool.false_ne_true
  rw [plainGap, htake, Cursor.advance_append h hline]
  dsimp only [Cursor.head?]
  cases hhead : rest.head? with
  | none => rfl
  | some d =>
    dsimp only
    rw [if_neg (hrest d hhead).2]

/-- Behind a blank in a scalar stands more of it, after all the blanks. -/
theorem StaysPlain.behind_blank {front tail : List Char} (h : StaysPlain (front ++ ' ' :: tail)) :
    ∃ blanks more, tail = blanks ++ more ∧ (∀ d ∈ blanks, d = ' ') ∧ more ≠ [] ∧
      ∀ d ∈ more.head?, d ≠ ' ' ∧ d ≠ '#' := by
  induction tail generalizing front with
  | nil => exact absurd (List.getLast?_append_cons ..) h.noBlank
  | cons e tail ih =>
    by_cases he : e = ' '
    · subst he
      obtain ⟨blanks, more, rfl, hblanks, hmore⟩ := @ih (front ++ [' ']) (by simpa using h)
      exact ⟨' ' :: blanks, more, rfl, List.forall_mem_cons.2 ⟨rfl, hblanks⟩, hmore⟩
    · refine ⟨[], e :: tail, rfl, nofun, List.cons_ne_nil _ _, ?_⟩
      rintro d ⟨⟩
      refine ⟨he, ?_⟩
      rintro rfl
      exact h.noComment ⟨front, tail, by simp⟩

/-- The parts of a scalar: the first goes up to a blank, and the blanks behind it are inside. -/
theorem StaysPlain.parts (h : StaysPlain cs) (hhead : ∀ d ∈ cs.head?, d ≠ ' ') (hne : cs ≠ []) :
    ∃ part, part ≠ [] ∧ (∀ d ∈ part, ¬ isGap (some d)) ∧
      (cs = part ∨ part.getLast? ≠ some ':' ∧ ∃ blanks more, cs = part ++ (' ' :: blanks ++ more) ∧
        (∀ d ∈ blanks, d = ' ') ∧ more ≠ [] ∧ ∀ d ∈ more.head?, d ≠ ' ' ∧ d ≠ '#') := by
  have hsplit : cs.takeWhile (· != ' ') ++ cs.dropWhile (· != ' ') = cs :=
    List.takeWhile_append_dropWhile
  have hpart : ∀ d ∈ cs.takeWhile (· != ' '), ¬ isGap (some d) := by
    intro d hd
    have hblank : d ≠ ' ' := by simpa using List.mem_takeWhile_imp hd
    have hinner := h.inner d (List.takeWhile_subset _ hd)
    simp [isGap, hblank, hinner]
  have hfirst : cs.takeWhile (· != ' ') ≠ [] := by
    cases cs with
    | nil => exact absurd rfl hne
    | cons d cs => simp [hhead d rfl]
  refine ⟨_, hfirst, hpart, ?_⟩
  have hstop := List.head?_dropWhile_not (· != ' ') cs
  generalize cs.takeWhile (· != ' ') = part at *
  cases htail : cs.dropWhile (· != ' ') with
  | nil =>
    obtain rfl : part = cs := by simpa [htail] using hsplit
    exact .inl rfl
  | cons e tail =>
    obtain rfl : e = ' ' := by simpa [htail] using hstop
    rw [htail] at hsplit
    subst hsplit
    obtain ⟨blanks, more, rfl, hblanks⟩ := h.behind_blank
    refine .inr ⟨fun hlast => ?_, blanks, more, rfl, hblanks⟩
    obtain ⟨front, rfl⟩ := List.getLast?_eq_some_iff.1 hlast
    exact h.noName ⟨front, blanks ++ more, by simp⟩

/-- The place behind a text in a line, where no name begins. -/
def Cursor.behind (c : Cursor) (text rest : List Char) : Cursor :=
  { c with rest := rest, column := c.column + width text, nameAllowed := false }

theorem width_append (cs more : List Char) : width (cs ++ more) = width cs + width more :=
  List.countP_append

theorem Cursor.behind_append (c : Cursor) (text between more rest : List Char) :
    c.behind (text ++ more) rest = (c.behind text between).behind more rest := by
  simp only [Cursor.behind, width_append, Nat.add_assoc]

/-- One part of a scalar is read, and then what is behind the blanks that follow. -/
theorem plainFrom_part {part behind : List Char} (hc : c.rest = part ++ behind) (hne : part ≠ [])
    (hhead : part.head? ≠ some '#') (hpart : ∀ d ∈ part, ¬ isGap (some d))
    (hlast : part.getLast? = some ':' → ¬ isGap behind.head?)
    (hbehind : plainLength false behind = 0) (gap : List Char) :
    plainFrom false least gap (fuel + 1) c =
      let next := plainGap (c.behind part behind)
      if next.1.isEmpty || next.2.head? == some '#' || decide ((next.2.column : Int) < least) then
        (gap ++ part, next.2)
      else
        let more := plainFrom false least next.1 fuel next.2
        (gap ++ part ++ more.1, more.2) := by
  have hline : ∀ d ∈ part, ¬ isBreak d := fun d hd hbreak => hpart d hd (by simp [isGap, hbreak])
  have hmark : ¬ (c.head? == some '#') := by
    rw [Cursor.head?, hc, List.head?_append_of_ne_nil _ hne]
    simpa using hhead
  have hcount : part.length ≠ 0 := by simpa using hne
  rw [plainFrom]
  dsimp only
  rw [hc, plainLength_append hpart hlast hbehind, List.take_left,
    Cursor.advance_append hc hline]
  rw [if_neg (by simp [hmark, hcount])]
  rfl

theorem plainFrom_of_plainLength_eq_zero (h : plainLength false c.rest = 0) (gap : List Char) :
    plainFrom false least gap fuel c = ([], c) := by
  cases fuel with
  | zero => rfl
  | succ fuel => simp [plainFrom, h]

/-- The scalar in front of the place is at its end. -/
def EndsScalar (least : Int) (c : Cursor) : Prop :=
  (plainGap c).1 = [] ∨ (plainGap c).2.head? = some '#' ∨ ((plainGap c).2.column : Int) < least ∨
    plainLength false (plainGap c).2.rest = 0

/-- The last part of a scalar is read, and nothing behind it. -/
theorem plainFrom_lastPart {part behind : List Char} (hc : c.rest = part ++ behind)
    (hne : part ≠ []) (hhead : part.head? ≠ some '#') (hpart : ∀ d ∈ part, ¬ isGap (some d))
    (hlast : part.getLast? = some ':' → ¬ isGap behind.head?)
    (hbehind : plainLength false behind = 0) (hend : EndsScalar least (c.behind part behind))
    (gap : List Char) :
    plainFrom false least gap (fuel + 1) c =
      (gap ++ part, (plainGap (c.behind part behind)).2) := by
  rw [plainFrom_part hc hne hhead hpart hlast hbehind]
  dsimp only
  split
  · rfl
  · rename_i hgoes
    simp only [Bool.or_eq_true, List.isEmpty_iff, beq_iff_eq, decide_eq_true_eq, not_or] at hgoes
    have hzero := hend.resolve_left hgoes.1.1 |>.resolve_left hgoes.1.2 |>.resolve_left hgoes.2
    rw [plainFrom_of_plainLength_eq_zero hzero, List.append_nil]

/-- A part of a scalar is read, and behind the blanks after it the rest of the scalar. -/
theorem plainFrom_partBlanks {part blanks more : List Char}
    (hc : c.rest = part ++ (' ' :: blanks ++ more)) (hne : part ≠ [])
    (hhead : part.head? ≠ some '#') (hpart : ∀ d ∈ part, ¬ isGap (some d))
    (hcolon : part.getLast? ≠ some ':') (hblanks : ∀ d ∈ blanks, d = ' ')
    (hmore : ∀ d ∈ more.head?, d ≠ ' ' ∧ d ≠ '#' ∧ ¬ isBreak d) (hleast : least ≤ c.column)
    (gap : List Char) :
    plainFrom false least gap (fuel + 1) c =
      let next := plainFrom false least (' ' :: blanks) fuel
        (c.behind (part ++ ' ' :: blanks) more)
      (gap ++ part ++ next.1, next.2) := by
  have hgap : plainGap (c.behind part (' ' :: blanks ++ more)) =
      (' ' :: blanks, c.behind (part ++ ' ' :: blanks) more) := by
    rw [c.behind_append part (' ' :: blanks ++ more)]
    exact plainGap_blanks rfl (List.forall_mem_cons.2 ⟨rfl, hblanks⟩)
      fun d hd => ⟨(hmore d hd).1, (hmore d hd).2.2⟩
  have hmark : ¬ more.head? = some '#' := fun hd => (hmore '#' hd).2.1 rfl
  have hcolumn : ¬ ((c.behind (part ++ ' ' :: blanks) more).column : Int) < least := by
    dsimp only [Cursor.behind]
    omega
  rw [plainFrom_part hc hne hhead hpart (absurd · hcolon) rfl, hgap]
  dsimp only
  rw [if_neg]
  simp only [List.isEmpty_cons, Cursor.head?, Bool.false_or, Bool.or_eq_true, beq_iff_eq,
    decide_eq_true_eq, not_or]
  exact ⟨hmark, hcolumn⟩

/-- What stays plain is read up to the place where it ends. -/
theorem plainFrom_text {text behind : List Char} (h : StaysPlain text) (hne : text ≠ [])
    (hhead : ∀ d ∈ text.head?, d ≠ ' ' ∧ d ≠ '#')
    (hlast : text.getLast? = some ':' → ¬ isGap behind.head?)
    (hbehind : plainLength false behind = 0) (hleast : least ≤ c.column)
    (hc : c.rest = text ++ behind)
    (hend : EndsScalar least (c.behind text behind))
    (gap : List Char) (hfuel : text.length < fuel) :
    plainFrom false least gap fuel c = (gap ++ text, (plainGap (c.behind text behind)).2) := by
  induction fuel generalizing c text gap with
  | zero => exact absurd hfuel (Nat.not_lt_zero _)
  | succ fuel ih =>
    obtain ⟨part, hpart, hinner, rfl | ⟨hcolon, blanks, more, rfl, hblanks, hmore, hmark⟩⟩ :=
      h.parts (fun d hd => (hhead d hd).1) hne
    · have hmark : text.head? ≠ some '#' := fun hd => (hhead '#' hd).2 rfl
      exact plainFrom_lastPart hc hpart hmark hinner hlast hbehind hend gap
    · have hfirst : part.head? ≠ some '#' := fun hd => by
        refine (hhead '#' ?_).2 rfl
        rwa [List.head?_append_of_ne_nil _ hpart]
      have hstays : StaysPlain more :=
        h.suffix ((List.suffix_append _ _).trans (List.suffix_append _ _)) hmore
      have hhead : ∀ d ∈ (more ++ behind).head?, d ≠ ' ' ∧ d ≠ '#' ∧ ¬ isBreak d := by
        intro d hd
        rw [List.head?_append_of_ne_nil _ hmore] at hd
        exact ⟨(hmark d hd).1, (hmark d hd).2, (hstays.inner d (List.mem_of_head? hd)).2⟩
      have hlast' : more.getLast? = some ':' → ¬ isGap behind.head? := by
        intro hlast'
        refine hlast ?_
        rw [← hlast', List.getLast?_append_of_ne_nil, List.getLast?_append_of_ne_nil _ hmore]
        simp
      have hcolumn : least ≤ (c.behind (part ++ ' ' :: blanks) (more ++ behind)).column := by
        dsimp only [Cursor.behind]
        omega
      have hfuel' : more.length < fuel := by
        simp only [List.length_append, List.length_cons] at hfuel
        omega
      have hplace : c.behind (part ++ (' ' :: blanks ++ more)) behind =
          (c.behind (part ++ ' ' :: blanks) (more ++ behind)).behind more behind := by
        rw [← Cursor.behind_append, List.append_assoc]
      rw [hplace] at hend ⊢
      rw [plainFrom_partBlanks (by simpa using hc) hpart hfirst hinner hcolon hblanks hhead hleast]
      dsimp only
      rw [ih hstays hmore hmark hlast' hcolumn rfl hend (' ' :: blanks) hfuel']
      simp

theorem startsPlain_append {behind : List Char} (hc : c.rest = cs ++ behind) (hne : cs ≠ [])
    (hbehind : isGap behind.head?) : startsPlain false c = startsPlain false { rest := cs } := by
  cases cs with
  | nil => exact absurd rfl hne
  | cons d cs =>
    have hgap : isGap (cs ++ behind).head? = isGap cs.head? := by
      cases cs with
      | nil => exact hbehind
      | cons e cs => rfl
    rw [List.cons_append] at hc
    simp only [startsPlain, hc, hgap]

/-- What stays plain is read as it is. -/
theorem plainText_text {text behind : List Char} (hbegins : startsPlain false c)
    (h : StaysPlain text) (hne : text ≠ []) (hhead : ∀ d ∈ text.head?, d ≠ ' ' ∧ d ≠ '#')
    (hlast : text.getLast? = some ':' → ¬ isGap behind.head?)
    (hbehind : plainLength false behind = 0) (hleast : least ≤ c.column)
    (hc : c.rest = text ++ behind)
    (hend : EndsScalar least (c.behind text behind)) :
    (plainText false least).run c = some (.ofList text, (plainGap (c.behind text behind)).2) := by
  have hfuel : text.length < c.rest.length + 1 := by
    rw [hc, List.length_append]
    omega
  have hread := plainFrom_text h hne hhead hlast hbehind hleast hc hend [] hfuel
  simp only [plainText, StateT.run_bind, StateT.run_get, pure_bind, hbegins, Bool.not_true,
    Bool.false_eq_true, if_false, hread, StateT.run_set, StateT.run_pure]
  rfl

end

end SchemaAtlas.Yaml

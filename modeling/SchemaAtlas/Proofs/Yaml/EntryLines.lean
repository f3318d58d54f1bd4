import SchemaAtlas.Proofs.Yaml.PlainLines

/-!
# Names and lines of entries

The name of an entry stands at the start of a line, and behind its colon stands the line that says
its value.

Main statements: a name is read up to its colon (`plainText_name`), and the value is read up to what
ends the scalar of its line (`exists_plainText_line`).
-/

namespace SchemaAtlas.Yaml

section

variable {cs rest : List Char} {least : Int} {c : Cursor}

/-! ### Names of entries -/

/-- Characters of the names of entries. -/
def isNameChar (d : Char) : Bool :=
  d.isLower || d == '_'

/-- A name of an entry that is not too long for one. -/
structure IsEntryName (cs : List Char) : Prop where
  ne_nil : cs ≠ []
  chars : ∀ d ∈ cs, isNameChar d
  length_le : cs.length ≤ 1024

instance : DecidablePred IsEntryName := fun cs =>
  decidable_of_iff (cs ≠ [] ∧ (∀ d ∈ cs, isNameChar d) ∧ cs.length ≤ 1024)
    ⟨fun h => ⟨h.1, h.2.1, h.2.2⟩, fun h => ⟨h.ne_nil, h.chars, h.length_le⟩⟩

theorem ne_of_isNameChar {d e : Char} (h : isNameChar d) (he : isNameChar e = false) : d ≠ e := by
  rintro rfl
  rw [h] at he
  cases he

theorem not_isGap_of_isNameChar {d : Char} (h : isNameChar d) : ¬ isGap (some d) := by
  have hbreak : ∀ e ∈ [' ', '\t', '\n', '\u2028', '\u2029'], d ≠ e := by
    have hmarks : ∀ e ∈ [' ', '\t', '\n', '\u2028', '\u2029'], isNameChar e = false := by decide
    exact fun e he => ne_of_isNameChar h (hmarks e he)
  simp only [List.forall_mem_cons] at hbreak
  simp [isGap, isBreak, hbreak]

theorem startsPlain_of_isNameChar {d : Char} (h : isNameChar d) (hc : c.rest.head? = some d) :
    startsPlain false c := by
  obtain ⟨more, hc⟩ := List.head?_eq_some_iff.1 hc
  have hmark : d ∉ "-?:,[]\x7b\x7d#&*!|>'\"%@`".toList := by
    have hmarks : ∀ e ∈ "-?:,[]\x7b\x7d#&*!|>'\"%@`".toList, isNameChar e = false := by
      decide +kernel
    exact fun hd => ne_of_isNameChar h (hmarks d hd) rfl
  simp only [startsPlain, hc]
  refine Bool.or_eq_true_iff.2 (.inl (Bool.and_eq_true_iff.2 ⟨?_, ?_⟩))
  · simpa using not_isGap_of_isNameChar h
  · simpa using hmark

/-- A name is read up to its colon. -/
theorem plainText_name (h : IsEntryName cs) (hc : c.rest = cs ++ ':' :: ' ' :: rest) :
    (plainText false least).run c = some (.ofList cs, c.behind cs (':' :: ' ' :: rest)) := by
  obtain ⟨d, more, rfl⟩ := List.exists_cons_of_ne_nil h.ne_nil
  have hbegins : startsPlain false c := by
    refine startsPlain_of_isNameChar (h.chars d List.mem_cons_self) ?_
    rw [hc]
    rfl
  have hmark : (d :: more).head? ≠ some '#' := by
    simpa using ne_of_isNameChar (e := '#') (h.chars d List.mem_cons_self) rfl
  have hlast : (d :: more).getLast? ≠ some ':' := fun hlast =>
    ne_of_isNameChar (h.chars _ (List.mem_of_getLast? hlast)) rfl rfl
  have hread := @plainFrom_part c.rest.length least _ _ _ hc h.ne_nil hmark
    (fun e he => not_isGap_of_isNameChar (h.chars e he)) (absurd · hlast) rfl []
  rw [plainGap_blanks (rfl : _ = [] ++ ':' :: ' ' :: rest) (by simp) (by simp [isBreak])] at hread
  simp only [plainText, StateT.run_bind, StateT.run_get, pure_bind, hbegins, Bool.not_true,
    Bool.false_eq_true, if_false, hread, StateT.run_set, StateT.run_pure]
  rfl

/-! ### What follows a gap -/

/-- The text is at its end or goes on with a name. -/
def BeginsName (rest : List Char) : Prop :=
  ∀ d ∈ rest.head?, isNameChar d

theorem BeginsName.beginsText (h : BeginsName rest) : BeginsText rest :=
  fun d hd => ⟨ne_of_isNameChar (h d hd) rfl, ne_of_isNameChar (h d hd) rfl,
    fun hbreak => not_isGap_of_isNameChar (h d hd) (by simp [isGap, hbreak])⟩

theorem BeginsName.not_atMarker (h : BeginsName rest) (hc : c.rest = rest) : ¬ c.atMarker := by
  cases rest with
  | nil => simp [Cursor.atMarker, hc]
  | cons d rest =>
    have hdash := ne_of_isNameChar (e := '-') (h d rfl) rfl
    have hpoint := ne_of_isNameChar (e := '.') (h d rfl) rfl
    simp [Cursor.atMarker, hc, hdash, hpoint]

theorem IsEntryName.beginsName (h : IsEntryName cs) (behind : List Char) :
    BeginsName (cs ++ behind) := by
  intro d hd
  rw [List.head?_append_of_ne_nil _ h.ne_nil] at hd
  exact h.chars d (List.mem_of_head? hd)

section

variable {gap : List (List Char)}

theorem endsBreaks_gapText (hgap : ∀ line ∈ gap.head?, line.head? = some '#')
    (hrest : BeginsName rest) : EndsBreaks (gapText gap ++ rest) := by
  cases gap with
  | nil =>
    exact ⟨fun d hd => ⟨(hrest.beginsText d hd).1, (hrest.beginsText d hd).2.2⟩,
      hrest.not_atMarker rfl⟩
  | cons line gap =>
    obtain ⟨more, rfl⟩ := List.head?_eq_some_iff.1 (hgap line rfl)
    constructor
    · intro d hd
      obtain rfl : '#' = d := by simpa [gapText] using hd
      decide
    · simp [Cursor.atMarker, Cursor.lineStart, gapText]

/-- A comment behind a scalar is a part of the gap behind it. -/
theorem skipGap_comment {comment : List Char} (hcomment : comment.head? = some '#')
    (hinner : ∀ d ∈ comment, ¬ isBreak d) (hgap : ∀ line ∈ gap, IsGapLine line)
    (hrest : BeginsName rest) (hlabels : c.labels = [])
    (hc : c.rest = comment ++ '\n' :: (gapText gap ++ rest)) :
    c.skipGap false = Cursor.lineStart rest (c.line + 1 + gap.length) := by
  have hlength : gap.length ≤ c.rest.length := by
    have hgap := length_le_length_gapText gap
    rw [hc, List.length_append, List.length_cons, List.length_append]
    omega
  rw [Cursor.skipGap, skipGapFrom_line ⟨.inr hcomment, hinner⟩ hlabels hc]
  exact skipGapFrom_gapText hgap hrest.beginsText hlength

/-! ### Lines behind names -/

/-- Blanks and a comment behind a scalar are passed with the gap. -/
theorem EndsLine.passed {behind : List Char} (h : EndsLine behind)
    (hinner : ∀ d ∈ behind, ¬ isBreak d) (hgap : ∀ line ∈ gap, IsGapLine line)
    (hrest : BeginsName rest) (hleast : 1 ≤ least) (hlabels : c.labels = [])
    (hc : c.rest = behind ++ '\n' :: (gapText gap ++ rest)) :
    plainLength false c.rest = 0 ∧ EndsScalar least c ∧
      (plainGap c).2.skipGap false = Cursor.lineStart rest (c.line + 1 + gap.length) := by
  obtain ⟨blanks, comment, rfl, hblanks, rfl | ⟨hne, hcomment⟩⟩ := h
  · obtain ⟨k, more, htext, hlength, hmore, hhead⟩ := gapText_eq_append hgap
    rw [List.append_nil, htext, List.append_assoc] at hc
    have hnext := plainGap_break (endsBreaks_gapText hhead hrest) hblanks hc
    refine ⟨plainLength_of_isGap ?_, .inr (.inr (.inl ?_)), ?_⟩
    · rw [hc]
      cases blanks with
      | nil => rfl
      | cons d blanks => rw [hblanks d List.mem_cons_self]; rfl
    · rw [hnext]
      exact Int.lt_of_lt_of_le Int.zero_lt_one hleast
    · rw [hnext, hlabels, hlength, ← Nat.add_assoc]
      exact skipGap_gapText hmore hrest.beginsText
  · have hfirst : ∀ d ∈ (comment ++ '\n' :: (gapText gap ++ rest)).head?, d = '#' := by
      intro d hd
      rw [List.head?_append, hcomment] at hd
      exact (Option.some.inj hd).symm
    rw [List.append_assoc] at hc
    have hnext := plainGap_blanks hc hblanks fun d hd => by rw [hfirst d hd]; decide
    refine ⟨plainLength_of_isGap ?_, .inr (.inl ?_), ?_⟩
    · obtain ⟨d, more, rfl⟩ := List.exists_cons_of_ne_nil hne
      rw [hc, hblanks d List.mem_cons_self]
      rfl
    · rw [hnext, Cursor.head?, List.head?_append, hcomment]
      rfl
    · rw [hnext]
      exact skipGap_comment hcomment (fun d hd => hinner d (List.mem_append_right _ hd)) hgap hrest
        hlabels rfl

/-- A colon behind a scalar is where the reader stands. -/
theorem reached_of_endsName {behind after : List Char} (h : endsName behind)
    (hc : c.rest = behind ++ '\n' :: after) :
    plainLength false c.rest = 0 ∧ EndsScalar least c ∧
      ∃ more, (plainGap c).2.rest = ':' :: more ∧ isGap more.head? := by
  obtain ⟨blanks, more, rfl, hblanks, hmore⟩ := endsName_iff.1 h
  have hmore : isGap (more ++ '\n' :: after).head? := by
    cases more with
    | nil => rfl
    | cons d more => exact hmore
  have hzero : plainLength false (':' :: (more ++ '\n' :: after)) = 0 := by
    rw [plainLength, hmore]
    rfl
  rw [List.append_assoc] at hc
  have hnext := plainGap_blanks hc hblanks fun d hd => by
    obtain rfl : ':' = d := Option.some.inj hd
    decide
  refine ⟨?_, .inr (.inr (.inr ?_)), more ++ '\n' :: after, by rw [hnext]; rfl, hmore⟩
  · rw [hc]
    cases blanks with
    | nil => exact hzero
    | cons d blanks =>
      refine plainLength_of_isGap ?_
      rw [hblanks d List.mem_cons_self]
      rfl
  · rw [hnext]
    exact hzero

/-- A line that begins as a plain scalar. -/
structure IsScalarLine (cs : List Char) : Prop where
  inner : ∀ d ∈ cs, d ≠ '\t' ∧ ¬ isBreak d
  begins : startsPlain false { rest := cs.dropWhile (· == ' ') }

instance : DecidablePred IsScalarLine := fun cs =>
  decidable_of_iff ((∀ d ∈ cs, d ≠ '\t' ∧ ¬ isBreak d) ∧
      startsPlain false { rest := cs.dropWhile (· == ' ') })
    ⟨fun h => ⟨h.1, h.2⟩, fun h => ⟨h.inner, h.begins⟩⟩

theorem IsScalarLine.beginsText (h : IsScalarLine cs) (behind : List Char) :
    BeginsText (cs.dropWhile (· == ' ') ++ behind) := by
  have hsuffix : cs.dropWhile (· == ' ') <:+ cs := List.dropWhile_suffix _
  obtain ⟨hne, hhead⟩ := head_of_begins h.begins
  have hnil : cs.dropWhile (· == ' ') ≠ [] := fun hnil => hne (by rw [hnil]; rfl)
  intro d hd
  rw [List.head?_append_of_ne_nil _ hnil] at hd
  exact ⟨(hhead d hd).1, (hhead d hd).2, (h.inner d (hsuffix.subset (List.mem_of_head? hd))).2⟩

/-- The line is read up to what ends its scalar: the end of the line, or a colon. -/
theorem exists_plainText_line (hline : IsScalarLine cs) (hgap : ∀ line ∈ gap, IsGapLine line)
    (hrest : BeginsName rest) (hleast : 1 ≤ least) (hcolumn : least ≤ c.column)
    (hlabels : c.labels = [])
    (hc : c.rest = cs.dropWhile (· == ' ') ++ '\n' :: (gapText gap ++ rest)) :
    ∃ text next, (plainText false least).run c = some (.ofList text, next) ∧
      (lineScalar? cs = some text ∧
          next.skipGap false = Cursor.lineStart rest (c.line + 1 + gap.length) ∨
        lineScalar? cs = none ∧ ∃ more, next.rest = ':' :: more ∧ isGap more.head?) := by
  have hsuffix : cs.dropWhile (· == ' ') <:+ cs := List.dropWhile_suffix _
  have hinner : ∀ d ∈ cs.dropWhile (· == ' '), d ≠ '\t' ∧ ¬ isBreak d := fun d hd =>
    hline.inner d (hsuffix.subset hd)
  have hbegins := hline.begins
  obtain ⟨behind, heq, hplain, hlast, hbehind⟩ := exists_eq_scalarPart_append hinner
  have hsaid := lineScalar?_eq heq
  generalize cs.dropWhile (· == ' ') = line at *
  obtain ⟨hne, hhead⟩ := head_of_begins hbegins
  have hnil : line ≠ [] := fun hnil => hne (by rw [hnil]; rfl)
  have hbegins : startsPlain false c := (startsPlain_append hc hnil rfl).trans hbegins
  have hhead : ∀ d ∈ (scalarPart line).head?, d ≠ ' ' ∧ d ≠ '#' := by
    intro d hd
    refine hhead d ?_
    rw [heq, List.head?_append, Option.mem_def.1 hd]
    rfl
  have hc : c.rest = scalarPart line ++ (behind ++ '\n' :: (gapText gap ++ rest)) := by
    rw [hc, ← List.append_assoc, ← heq]
  have hlast : (scalarPart line).getLast? = some ':' →
      ¬ isGap (behind ++ '\n' :: (gapText gap ++ rest)).head? := by
    intro hcolon
    cases behind with
    | nil => exact absurd rfl (hlast hcolon)
    | cons d behind => exact hlast hcolon
  have hinner : ∀ d ∈ behind, ¬ isBreak d := fun d hd =>
    (hinner d (by rw [heq]; exact List.mem_append_right _ hd)).2
  have hread := @plainText_text least c _ _ hbegins hplain hne hhead hlast
  rcases hbehind with hend | hend
  · obtain ⟨hzero, hstop, hnext⟩ := @EndsLine.passed rest least (c.behind (scalarPart line) _) gap
      behind hend hinner hgap hrest hleast hlabels rfl
    rw [hend.not_endsName] at hsaid
    exact ⟨_, _, hread hzero hcolumn hc hstop, .inl ⟨hsaid, hnext⟩⟩
  · obtain ⟨hzero, hstop, hnext⟩ := @reached_of_endsName least (c.behind (scalarPart line) _) behind
      (gapText gap ++ rest) hend rfl
    rw [if_pos hend] at hsaid
    exact ⟨_, _, hread hzero hcolumn hc hstop, .inr ⟨hsaid, hnext⟩⟩

end

end

end SchemaAtlas.Yaml

import Mathlib.Data.List.Infix
import Mathlib.Data.List.TakeWhile
import SchemaAtlas.Proofs.Lists
import SchemaAtlas.Proofs.Yaml.Gaps

/-!
# What a line says

A plain scalar goes on until a comment, the colon of a name or the end of its line (`scalarPart`).
A line says its scalar (`lineScalar?`), and nothing if a colon makes that a name.

Main statement: the lines that say all of themselves are the bare texts
(`lineScalar?_eq_some_self_iff`).
-/

namespace SchemaAtlas.Yaml

/-! ### Bare texts -/

/-- Nothing in some characters ends a plain scalar, and no blank stands at their end. -/
structure StaysPlain (cs : List Char) : Prop where
  inner : ∀ d ∈ cs, d ≠ '\t' ∧ ¬ isBreak d
  noComment : ¬ [' ', '#'] <:+: cs
  noName : ¬ [':', ' '] <:+: cs
  noBlank : cs.getLast? ≠ some ' '

/-- Characters that are a plain scalar up to the end of their line. -/
structure IsBare (cs : List Char) : Prop extends StaysPlain cs where
  noColon : cs.getLast? ≠ some ':'
  begins : startsPlain false { rest := cs }

instance : DecidablePred StaysPlain := fun cs =>
  decidable_of_iff ((∀ d ∈ cs, d ≠ '\t' ∧ ¬ isBreak d) ∧ ¬ [' ', '#'] <:+: cs ∧
      ¬ [':', ' '] <:+: cs ∧ cs.getLast? ≠ some ' ')
    ⟨fun h => ⟨h.1, h.2.1, h.2.2.1, h.2.2.2⟩,
      fun h => ⟨h.inner, h.noComment, h.noName, h.noBlank⟩⟩

instance : DecidablePred IsBare := fun cs =>
  decidable_of_iff (StaysPlain cs ∧ cs.getLast? ≠ some ':' ∧ startsPlain false { rest := cs })
    ⟨fun h => ⟨h.1, h.2.1, h.2.2⟩, fun h => ⟨h.toStaysPlain, h.noColon, h.begins⟩⟩

theorem StaysPlain.suffix {cs more : List Char} (h : StaysPlain cs) (hmore : more <:+ cs)
    (hne : more ≠ []) : StaysPlain more := by
  have hlast : more.getLast? = cs.getLast? := by
    obtain ⟨front, rfl⟩ := hmore
    exact (List.getLast?_append_of_ne_nil _ hne).symm
  exact ⟨fun d hd => h.inner d (hmore.subset hd), fun hin => h.noComment (hin.trans hmore.isInfix),
    fun hin => h.noName (hin.trans hmore.isInfix), hlast ▸ h.noBlank⟩

/-! ### What a line says -/

/-- The rest of a line is blank or a comment. -/
def EndsLine (behind : List Char) : Prop :=
  ∃ blanks comment, behind = blanks ++ comment ∧ (∀ d ∈ blanks, d = ' ') ∧
    (comment = [] ∨ blanks ≠ [] ∧ comment.head? = some '#')

/-- The rest of a line goes on with a colon that ends a name. -/
def endsName (behind : List Char) : Bool :=
  match behind.dropWhile (· == ' ') with
  | ':' :: more => isGap more.head?
  | _ => false

/-- The plain scalar at the start of a line. -/
def scalarPart : List Char → List Char
  | [] => []
  | d :: rest =>
    if d = ':' ∧ isGap rest.head? then []
    else if d = ' ' ∧ (rest.head? = some '#' ∨ scalarPart rest = []) then []
    else d :: scalarPart rest

theorem StaysPlain.cons {d : Char} {cs : List Char} (h : StaysPlain cs)
    (hd : d ≠ '\t' ∧ ¬ isBreak d) (hcomment : d = ' ' → cs.head? ≠ some '#')
    (hname : d = ':' → cs.head? ≠ some ' ') (hblank : cs = [] → d ≠ ' ') :
    StaysPlain (d :: cs) := by
  refine ⟨List.forall_mem_cons.2 ⟨hd, h.inner⟩, fun hin => ?_, fun hin => ?_, ?_⟩
  · rcases List.infix_cons_iff.1 hin with hprefix | hin
    · obtain ⟨more, hmore⟩ := hprefix
      obtain ⟨rfl, rfl⟩ := List.cons.inj hmore
      exact hcomment rfl rfl
    · exact h.noComment hin
  · rcases List.infix_cons_iff.1 hin with hprefix | hin
    · obtain ⟨more, hmore⟩ := hprefix
      obtain ⟨rfl, rfl⟩ := List.cons.inj hmore
      exact hname rfl rfl
    · exact h.noName hin
  · cases cs with
    | nil => simpa using hblank rfl
    | cons e cs => simpa using h.noBlank

theorem EndsLine.blank {behind : List Char} (h : EndsLine behind) : EndsLine (' ' :: behind) := by
  obtain ⟨blanks, comment, rfl, hblanks, hcomment⟩ := h
  exact ⟨' ' :: blanks, comment, rfl, List.forall_mem_cons.2 ⟨rfl, hblanks⟩,
    hcomment.imp_right fun h => ⟨List.cons_ne_nil _ _, h.2⟩⟩

theorem endsName_iff {behind : List Char} : endsName behind ↔
    ∃ blanks more, behind = blanks ++ ':' :: more ∧ (∀ d ∈ blanks, d = ' ') ∧ isGap more.head? := by
  constructor
  · intro h
    have hblanks : ∀ d ∈ behind.takeWhile (· == ' '), d = ' ' := fun d hd => by
      simpa using List.mem_takeWhile_imp hd
    have heq : behind.takeWhile (· == ' ') ++ behind.dropWhile (· == ' ') = behind :=
      List.takeWhile_append_dropWhile
    rw [endsName] at h
    split at h
    · rename_i more hmore
      exact ⟨_, more, by rw [← hmore, heq], hblanks, h⟩
    · cases h
  · rintro ⟨blanks, more, rfl, hblanks, hmore⟩
    have hdrop : (blanks ++ ':' :: more).dropWhile (· == ' ') = ':' :: more := by
      rw [List.dropWhile_append_of_pos (by simpa using hblanks)]
      rfl
    rw [endsName, hdrop]
    exact hmore

theorem endsName_blank {behind : List Char} (h : endsName behind) : endsName (' ' :: behind) := by
  obtain ⟨blanks, more, rfl, hblanks, hmore⟩ := endsName_iff.1 h
  exact endsName_iff.2
    ⟨' ' :: blanks, more, rfl, List.forall_mem_cons.2 ⟨rfl, hblanks⟩, hmore⟩

/-- What a line says: its plain scalar, unless a colon makes that a name. -/
def lineScalar? (cs : List Char) : Option (List Char) :=
  let line := cs.dropWhile (· == ' ')
  if endsName (line.drop (scalarPart line).length) then none else some (scalarPart line)

theorem EndsLine.not_endsName {behind : List Char} (h : EndsLine behind) :
    endsName behind = false := by
  obtain ⟨blanks, comment, rfl, hblanks, hcomment⟩ := h
  have hdrop : (blanks ++ comment).dropWhile (· == ' ') = comment.dropWhile (· == ' ') :=
    List.dropWhile_append_of_pos (by simpa using hblanks)
  rw [endsName, hdrop]
  obtain rfl | ⟨-, hcomment⟩ := hcomment
  · rfl
  · obtain ⟨more, rfl⟩ := List.head?_eq_some_iff.1 hcomment
    rfl

/-- A line is its scalar and what ends it. -/
theorem exists_eq_scalarPart_append {cs : List Char} (h : ∀ d ∈ cs, d ≠ '\t' ∧ ¬ isBreak d) :
    ∃ behind, cs = scalarPart cs ++ behind ∧ StaysPlain (scalarPart cs) ∧
      ((scalarPart cs).getLast? = some ':' → ¬ isGap behind.head?) ∧
      (EndsLine behind ∨ endsName behind) := by
  have hnil : StaysPlain [] := by decide
  induction cs with
  | nil => exact ⟨[], rfl, hnil, nofun, .inl ⟨[], [], rfl, fun _ => nofun, .inl rfl⟩⟩
  | cons d cs ih =>
    obtain ⟨hd, hcs⟩ := List.forall_mem_cons.1 h
    obtain ⟨behind, heq, hplain, hlast, hbehind⟩ := ih hcs
    have hhead : ∀ e, (scalarPart cs).head? = some e → cs.head? = some e := by
      intro e he
      rw [heq, List.head?_append, he]
      rfl
    by_cases hname : d = ':' ∧ isGap cs.head?
    · have hpart : scalarPart (d :: cs) = [] := by rw [scalarPart, if_pos hname]
      rw [hpart]
      exact ⟨d :: cs, rfl, hnil, nofun,
        .inr (endsName_iff.2 ⟨[], cs, by rw [hname.1]; rfl, fun _ => nofun, hname.2⟩)⟩
    by_cases hblank : d = ' ' ∧ (cs.head? = some '#' ∨ scalarPart cs = [])
    · have hpart : scalarPart (d :: cs) = [] := by rw [scalarPart, if_neg hname, if_pos hblank]
      rw [hpart]
      refine ⟨d :: cs, rfl, hnil, nofun, ?_⟩
      obtain ⟨rfl, hcomment | hempty⟩ := hblank
      · exact .inl ⟨[' '], cs, rfl, by simp, .inr ⟨List.cons_ne_nil _ _, hcomment⟩⟩
      · rw [hempty] at heq
        rw [heq]
        exact hbehind.imp EndsLine.blank endsName_blank
    · have hpart : scalarPart (d :: cs) = d :: scalarPart cs := by
        rw [scalarPart, if_neg hname, if_neg hblank]
      rw [hpart]
      refine ⟨behind, congrArg (d :: ·) heq, hplain.cons hd ?_ ?_ ?_, ?_, hbehind⟩
      · exact fun hd hhash => hblank ⟨hd, .inl (hhead _ hhash)⟩
      · exact fun hd hgap => hname ⟨hd, by rw [hhead _ hgap]; rfl⟩
      · exact fun hempty hd => hblank ⟨hd, .inr hempty⟩
      · intro hcolon
        cases hmore : scalarPart cs with
        | nil =>
          rw [hmore] at hcolon heq
          rw [← List.nil_append behind, ← heq]
          exact fun hgap => hname ⟨by simpa using hcolon, hgap⟩
        | cons e more =>
          rw [hmore] at hcolon hlast
          exact hlast (by simpa using hcolon)

/-- A plain scalar begins with a character that does not end it. -/
theorem head_of_begins {cs : List Char} (h : startsPlain false { rest := cs }) :
    scalarPart cs ≠ [] ∧ ∀ d ∈ cs.head?, d ≠ ' ' ∧ d ≠ '#' := by
  cases cs with
  | nil => cases h
  | cons d cs =>
    have hhead : d ≠ ' ' ∧ d ≠ '#' := by
      constructor
      all_goals
        rintro rfl
        simp [startsPlain, isGap] at h
    have hname : ¬ (d = ':' ∧ isGap cs.head?) := by
      rintro ⟨rfl, hgap⟩
      simp [startsPlain, hgap] at h
    refine ⟨?_, fun e he => ?_⟩
    · rw [scalarPart, if_neg hname, if_neg fun hblank => hhead.1 hblank.1]
      exact List.cons_ne_nil _ _
    · obtain rfl : d = e := Option.some.inj he
      exact hhead

/-- Nothing ends a bare text before its end. -/
theorem IsBare.eq_nil_of_append {cs behind : List Char} (h : IsBare (cs ++ behind))
    (hbehind : EndsLine behind ∨ endsName behind) : behind = [] := by
  rcases hbehind with ⟨blanks, comment, rfl, hblanks, rfl | ⟨hne, hcomment⟩⟩ | hname
  · rw [List.append_nil] at h ⊢
    by_contra hne
    refine h.noBlank ?_
    rw [List.getLast?_append_of_ne_nil _ hne, List.getLast?_eq_some_getLast hne,
      hblanks _ (List.getLast_mem hne)]
  · obtain ⟨more, rfl⟩ := List.head?_eq_some_iff.1 hcomment
    refine absurd ⟨cs ++ blanks.dropLast, more, ?_⟩ h.noComment
    have hlast : blanks.dropLast ++ [' '] = blanks := by
      have hlast := List.dropLast_append_getLast hne
      rwa [hblanks _ (List.getLast_mem hne)] at hlast
    rw [← hlast]
    simp
  · obtain ⟨blanks, more, rfl, -, hmore⟩ := endsName_iff.1 hname
    cases more with
    | nil => exact absurd (by simp) h.noColon
    | cons d more =>
      have hd : d ≠ '\t' ∧ ¬ isBreak d := h.inner d (by simp)
      obtain rfl : d = ' ' := by simpa [isGap, hd] using hmore
      exact absurd ⟨cs ++ blanks, more, by simp⟩ h.noName

/-- What a line says, by what ends its scalar. -/
theorem lineScalar?_eq {cs behind : List Char} (h : cs.dropWhile (· == ' ') =
    scalarPart (cs.dropWhile (· == ' ')) ++ behind) : lineScalar? cs =
      if endsName behind then none else some (scalarPart (cs.dropWhile (· == ' '))) := by
  have hdrop : (cs.dropWhile (· == ' ')).drop (scalarPart (cs.dropWhile (· == ' '))).length =
      behind := by
    conv_lhs => rw [h]
    exact List.drop_left' (by rw [← h])
  rw [lineScalar?, hdrop]

/-- The lines that say themselves are the bare texts. -/
theorem lineScalar?_eq_some_self_iff {cs : List Char} (hinner : ∀ d ∈ cs, d ≠ '\t' ∧ ¬ isBreak d)
    (hbegins : startsPlain false { rest := cs.dropWhile (· == ' ') }) :
    lineScalar? cs = some cs ↔ IsBare cs := by
  have hsuffix : cs.dropWhile (· == ' ') <:+ cs := List.dropWhile_suffix _
  obtain ⟨behind, heq, hplain, hlast, hbehind⟩ :=
    exists_eq_scalarPart_append fun d hd => hinner d (hsuffix.subset hd)
  constructor
  · intro h
    have hsame : scalarPart (cs.dropWhile (· == ' ')) = cs := by
      rw [lineScalar?_eq heq] at h
      split at h
      · cases h
      · exact Option.some.inj h
    have hline : cs.dropWhile (· == ' ') = cs := by
      refine hsuffix.eq_of_length_le ?_
      calc cs.length = (scalarPart (cs.dropWhile (· == ' '))).length := by rw [hsame]
        _ ≤ (scalarPart (cs.dropWhile (· == ' ')) ++ behind).length := by
          rw [List.length_append]
          omega
        _ = (cs.dropWhile (· == ' ')).length := by rw [← heq]
    rw [hline] at hsame hbegins heq hplain hlast
    rw [hsame] at heq hplain hlast
    obtain rfl : behind = [] := by simpa using heq
    exact ⟨hplain, fun hcolon => hlast hcolon rfl, hbegins⟩
  · intro h
    have hline : cs.dropWhile (· == ' ') = cs := by
      cases cs with
      | nil => rfl
      | cons d cs => simp [((head_of_begins h.begins).2 d rfl).1]
    rw [hline] at heq
    obtain rfl : behind = [] := by
      rw [heq] at h
      exact h.eq_nil_of_append hbehind
    have hsame : scalarPart cs = cs := by simpa using heq.symm
    simp [lineScalar?, hline, hsame, endsName]

end SchemaAtlas.Yaml

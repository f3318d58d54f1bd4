import Mathlib.Data.List.DropRight
import SchemaAtlas.Proofs.Schema.JoinedText
import SchemaAtlas.Proofs.Text.Trimming

/-!
# Where lines begin and end

Where a line begins, a text comes apart into its lines (`lines_append`), unless the place is inside a
separator of two characters (`SplitsSeparator`).

A text keeps its lines up to blanks when a blank is put at the beginning or the end of a line
(`map_trim_lines_insert`), and it keeps them as they are when its line feeds are written as other
separators (`lines_separatedBy`).
-/

namespace SchemaAtlas.Text

/-- A line begins behind the text. -/
def EndsLine (front : List Char) : Prop :=
  ∀ c ∈ front.getLast?, isLineEnd c

/-- A line ends in front of the text. -/
def StartsWithLineEnd (back : List Char) : Prop :=
  ∀ c ∈ back.head?, isLineEnd c

/-- The place between the two texts is inside a separator of two characters. -/
def SplitsSeparator (front back : List Char) : Prop :=
  front.getLast? = some '\r' ∧ back.head? = some '\n'

instance (front : List Char) : Decidable (EndsLine front) :=
  decidable_of_iff (front.getLast?.all isLineEnd) (Option.all_eq_true ..)

instance (back : List Char) : Decidable (StartsWithLineEnd back) :=
  decidable_of_iff (back.head?.all isLineEnd) (Option.all_eq_true ..)

instance (front back : List Char) : Decidable (SplitsSeparator front back) :=
  inferInstanceAs (Decidable (_ ∧ _))

/-! ### The first line -/

theorem lines_return_newline (rest : List Char) : lines ('\r' :: '\n' :: rest) = [] :: lines rest :=
  lines.eq_2 rest

theorem lines_cons_of_head? {c : Char} {cs : List Char} (h : c = '\r' → cs.head? ≠ some '\n') :
    lines (c :: cs) =
      if isLineEnd c then [] :: lines cs
      else match lines cs with
        | [] => [[c]]
        | line :: more => (c :: line) :: more := by
  refine lines.eq_3 c cs fun rest hc hcs => h hc ?_
  rw [hcs]
  rfl

theorem lines_ne_nil {cs : List Char} (h : cs ≠ []) : lines cs ≠ [] := by
  intro hlines
  induction cs using lines.induct <;> simp_all [lines]

/-- A line that ends in front of `back` is the first line. -/
theorem lines_append_of_startsWithLineEnd {line back : List Char}
    (hline : ∀ c ∈ line, ¬ isLineEnd c) (hback : StartsWithLineEnd back)
    (hne : line ≠ [] ∨ back ≠ []) : lines (line ++ back) = line :: (lines back).tail := by
  induction line with
  | nil =>
    obtain ⟨e, rest, rfl⟩ := List.exists_cons_of_ne_nil (hne.resolve_left (absurd rfl))
    have he : isLineEnd e := hback e rfl
    rw [List.nil_append]
    by_cases hreturn : e = '\r' ∧ rest.head? = some '\n'
    · obtain ⟨rfl, hhead⟩ := hreturn
      obtain ⟨rest, rfl⟩ := List.head?_eq_some_iff.1 hhead
      rw [lines_return_newline]
      rfl
    · rw [lines_cons_of_head? fun hc hhead => hreturn ⟨hc, hhead⟩, if_pos he]
      rfl
  | cons c line ih =>
    obtain ⟨hc, hline⟩ := List.forall_mem_cons.1 hline
    rw [List.cons_append, lines_cons (ne_return_of_not_isLineEnd hc), if_neg hc]
    by_cases hempty : line = [] ∧ back = []
    · obtain ⟨rfl, rfl⟩ := hempty
      rfl
    · rw [ih hline (not_and_or.1 hempty)]

/-! ### Texts in parts -/

theorem not_splitsSeparator_append {line : List Char} (hne : line ≠ [])
    (hline : ∀ c ∈ line, ¬ isLineEnd c) (front back : List Char) :
    ¬ SplitsSeparator front (line ++ back) := by
  rintro ⟨-, hhead⟩
  cases line with
  | nil => exact hne rfl
  | cons c line =>
    obtain rfl : c = '\n' := Option.some.inj hhead
    exact hline _ List.mem_cons_self (by decide)

theorem EndsLine.of_cons {c : Char} {front : List Char} (h : EndsLine (c :: front)) :
    EndsLine front := by
  intro d hd
  have hne : front ≠ [] := by
    rintro rfl
    cases hd
  exact h d (by rwa [List.getLast?_cons_of_ne_nil hne])

theorem SplitsSeparator.cons {front back : List Char} (h : SplitsSeparator front back) (c : Char) :
    SplitsSeparator (c :: front) back := by
  have hne : front ≠ [] := by
    rintro rfl
    cases h.1
  exact ⟨by rw [List.getLast?_cons_of_ne_nil hne, h.1], h.2⟩

/-- At the beginning of a line, a text comes apart into its lines. -/
theorem lines_append {front back : List Char} (hfront : EndsLine front)
    (hwhole : ¬ SplitsSeparator front back) : lines (front ++ back) = lines front ++ lines back := by
  have hcons : ∀ {c rest}, (∀ tail, c = '\r' → rest = '\n' :: tail → False) →
      ¬ SplitsSeparator (c :: rest) back → c = '\r' → (rest ++ back).head? ≠ some '\n' := by
    intro c rest hsingle hwhole hc hhead
    cases rest with
    | nil => exact hwhole ⟨by rw [hc]; rfl, hhead⟩
    | cons d rest => exact hsingle rest hc (by rw [Option.some.inj hhead])
  induction front using lines.induct with
  | case1 => rw [lines_nil, List.nil_append, List.nil_append]
  | case2 rest ih =>
    have htail := ih hfront.of_cons.of_cons fun h => hwhole ((h.cons '\n').cons '\r')
    simp only [List.cons_append, lines_return_newline, htail]
  | case3 c rest hsingle hc ih =>
    have htail := ih hfront.of_cons fun h => hwhole (h.cons c)
    rw [List.cons_append, lines_cons_of_head? (hcons hsingle hwhole), if_pos hc, htail,
      lines.eq_3 c rest hsingle, if_pos hc, List.cons_append]
  | case4 c rest hsingle hc hnone ih =>
    have hnil : rest = [] := by
      by_contra hne
      exact lines_ne_nil hne hnone
    exact absurd (hfront c (by rw [hnil]; rfl)) hc
  | case5 c rest hsingle hc line more hlines ih =>
    have htail := ih hfront.of_cons fun h => hwhole (h.cons c)
    rw [List.cons_append, lines_cons_of_head? (hcons hsingle hwhole), if_neg hc, htail,
      lines.eq_3 c rest hsingle, if_neg hc, hlines]
    rfl

/-- The lines of a text are what stands between its line ends. -/
theorem not_isLineEnd_of_mem_lines (cs : List Char) :
    ∀ line ∈ lines cs, ∀ c ∈ line, ¬ isLineEnd c := by
  induction cs using lines.induct with
  | case1 =>
    rw [lines_nil]
    exact List.forall_mem_nil _
  | case2 rest ih =>
    rw [lines_return_newline, List.forall_mem_cons]
    exact ⟨List.forall_mem_nil _, ih⟩
  | case3 c rest hsingle hend ih =>
    rw [lines.eq_3 c rest hsingle, if_pos hend, List.forall_mem_cons]
    exact ⟨List.forall_mem_nil _, ih⟩
  | case4 c rest hsingle hend hlines ih =>
    have heq : lines (c :: rest) = [[c]] := by
      rw [lines.eq_3 c rest hsingle, if_neg hend, hlines]
    rw [heq, List.forall_mem_singleton, List.forall_mem_singleton]
    exact hend
  | case5 c rest hsingle hend line more hlines ih =>
    have heq : lines (c :: rest) = (c :: line) :: more := by
      rw [lines.eq_3 c rest hsingle, if_neg hend, hlines]
    rw [hlines, List.forall_mem_cons] at ih
    rw [heq, List.forall_mem_cons, List.forall_mem_cons]
    exact ⟨⟨hend, ih.1⟩, ih.2⟩

/-- Every text ends with an unfinished line, possibly empty. -/
theorem exists_eq_append_line (cs : List Char) :
    ∃ front line, cs = front ++ line ∧ EndsLine front ∧ ∀ c ∈ line, ¬ isLineEnd c := by
  refine ⟨cs.rdropWhile (!isLineEnd ·), cs.rtakeWhile (!isLineEnd ·),
    List.rdropWhile_append_rtakeWhile.symm, fun c hc => ?_, fun c hc => ?_⟩
  · obtain ⟨hne, rfl⟩ := List.mem_getLast?_eq_getLast hc
    simpa using List.rdropWhile_last_not _ cs hne
  · simpa using List.mem_rtakeWhile_imp hc

/-! ### Blanks at the ends of lines -/

theorem trim_cons_of_isBlank {c : Char} (hc : isBlank c) (cs : List Char) :
    trim (c :: cs) = trim cs :=
  congrArg trimRight (List.dropWhile_cons_of_pos hc)

theorem trim_concat_of_isBlank {c : Char} (hc : isBlank c) (cs : List Char) :
    trim (cs ++ [c]) = trim cs := by
  have hblank : ∀ d ∈ [c], isBlank d := by simpa using hc
  rw [trim, ← trimLeft_trimRight, trimRight_append_of_all_isBlank hblank, trimLeft_trimRight, trim]

/-- A blank at the beginning or the end of a line leaves the lines as they are up to blanks, or adds a
blank line behind the last one. -/
theorem map_trim_lines_insert {c : Char} (hblank : isBlank c) (hc : ¬ isLineEnd c)
    {front back : List Char} (hplace : EndsLine front ∨ StartsWithLineEnd back)
    (hwhole : ¬ SplitsSeparator front back) :
    (lines (front ++ c :: back)).map trim = (lines (front ++ back)).map trim ∨
      (lines (front ++ c :: back)).map trim = (lines (front ++ back)).map trim ++ [[]] := by
  have hsingle : ∀ d ∈ [c], ¬ isLineEnd d := by simpa using hc
  have hnil : trim [c] = [] := trim_cons_of_isBlank hblank []
  obtain hfront | hback := hplace
  · -- the blank begins the first line of `back`
    have hinsert := not_splitsSeparator_append (List.cons_ne_nil c []) hsingle front back
    rw [List.singleton_append] at hinsert
    rw [lines_append hfront hinsert, lines_append hfront hwhole,
      lines_cons (ne_return_of_not_isLineEnd hc), if_neg hc]
    cases lines back with
    | nil => exact .inr (by simp [hnil])
    | cons line more => exact .inl (by simp [trim_cons_of_isBlank hblank])
  · -- the blank ends the unfinished line of `front`
    obtain ⟨front, line, rfl, hfront, hline⟩ := exists_eq_append_line front
    have hlonger : ∀ d ∈ line ++ [c], ¬ isLineEnd d := by
      intro d hd
      exact (List.mem_append.1 hd).elim (hline d) (hsingle d)
    have hbehind : ¬ SplitsSeparator front (line ++ back) := by
      by_cases hne : line = []
      · subst hne
        rwa [List.append_nil] at hwhole
      · exact not_splitsSeparator_append hne hline front back
    have hinsert := not_splitsSeparator_append (by simp) hlonger front back
    have hlines := lines_append_of_startsWithLineEnd hlonger hback (.inl (by simp))
    rw [List.append_assoc, List.append_assoc, List.append_cons, lines_append hfront hinsert, hlines,
      lines_append hfront hbehind]
    by_cases hne : line ≠ [] ∨ back ≠ []
    · rw [lines_append_of_startsWithLineEnd hline hback hne]
      exact .inl (by simp [trim_concat_of_isBlank hblank])
    · obtain ⟨rfl, rfl⟩ : line = [] ∧ back = [] := by simpa using hne
      exact .inr (by simp [hnil])

/-! ### Other separators -/

/-- The text with `separator` in the place of every line feed. -/
def separatedBy (separator : String) (cs : List Char) : List Char :=
  cs.flatMap fun c => if c = '\n' then separator.toList else [c]

theorem separatedBy_cons (separator : String) (c : Char) (cs : List Char) :
    separatedBy separator (c :: cs) =
      (if c = '\n' then separator.toList else [c]) ++ separatedBy separator cs :=
  List.flatMap_cons

theorem head?_separatedBy_ne {separator : String} (h : separator.toList.head? = some '\r')
    (cs : List Char) : (separatedBy separator cs).head? ≠ some '\n' := by
  obtain ⟨more, hmore⟩ := List.head?_eq_some_iff.1 h
  cases cs with
  | nil => simp [separatedBy]
  | cons c cs =>
    rw [separatedBy_cons]
    split
    · simp [hmore]
    · simpa using ‹_›

/-- Carriage returns, with or without line feeds, in the place of line feeds leave the lines as they
are. -/
theorem lines_separatedBy {separator : String} (hseparator : separator ∈ ["\r\n", "\r"])
    {cs : List Char} (h : ∀ c ∈ cs, isLineEnd c → c = '\n') :
    lines (separatedBy separator cs) = lines cs := by
  have hfeed : ∀ cs, lines ('\n' :: cs) = [] :: lines cs := by
    intro cs
    rw [lines_cons (by decide), if_pos (by decide)]
  induction cs with
  | nil => rfl
  | cons c cs ih =>
    obtain ⟨hc, hcs⟩ := List.forall_mem_cons.1 h
    rw [separatedBy_cons]
    by_cases hnewline : c = '\n'
    · subst hnewline
      rw [if_pos rfl, hfeed, ← ih hcs]
      obtain rfl | rfl : separator = "\r\n" ∨ separator = "\r" := by simpa using hseparator
      · exact lines_return_newline _
      · exact (lines_cons_of_head? fun _ => head?_separatedBy_ne rfl cs).trans (if_pos (by decide))
    · have hline : ¬ isLineEnd c := fun hend => hnewline (hc hend)
      rw [if_neg hnewline, List.singleton_append, lines_cons (ne_return_of_not_isLineEnd hline),
        lines_cons (ne_return_of_not_isLineEnd hline), ih hcs]

/-! ### A line feed at the end -/

/-- A carriage return and the line feed behind it end the same line. -/
theorem lines_concat_return_newline (cs : List Char) :
    lines (cs ++ ['\r', '\n']) = lines (cs ++ ['\r']) := by
  obtain ⟨front, line, rfl, hfront, hline⟩ := exists_eq_append_line cs
  have hbehind : ∀ back, ¬ SplitsSeparator front (line ++ '\r' :: back) := by
    intro back
    by_cases hne : line = []
    · subst hne
      rintro ⟨-, hhead⟩
      cases hhead
    · exact not_splitsSeparator_append hne hline front _
  have hends : ∀ back, StartsWithLineEnd ('\r' :: back) :=
    fun back c hc => by
      obtain rfl := Option.some.inj hc
      decide
  have hlines : ∀ back, lines (front ++ (line ++ '\r' :: back)) =
      lines front ++ line :: (lines ('\r' :: back)).tail := by
    intro back
    rw [lines_append hfront (hbehind back),
      lines_append_of_startsWithLineEnd hline (hends back) (.inr (by simp))]
  rw [List.append_assoc, List.append_assoc, hlines, hlines]
  rfl

/-- A line feed behind a text ends its last line, if that is unfinished, or else adds an empty line. -/
theorem lines_concat_newline (cs : List Char) :
    lines (cs ++ ['\n']) = lines cs ∨ lines (cs ++ ['\n']) = lines cs ++ [[]] := by
  by_cases hreturn : cs.getLast? = some '\r'
  · obtain ⟨front, rfl⟩ := List.getLast?_eq_some_iff.1 hreturn
    rw [List.append_assoc]
    exact .inl (lines_concat_return_newline front)
  · obtain ⟨front, line, rfl, hfront, hline⟩ := exists_eq_append_line cs
    by_cases hne : line = []
    · subst hne
      rw [List.append_nil] at hreturn ⊢
      rw [lines_append hfront fun h => hreturn h.1]
      exact .inr rfl
    · have hfeed : StartsWithLineEnd ['\n'] := by decide
      have hends : ∀ back, StartsWithLineEnd back → lines (front ++ (line ++ back)) =
          lines front ++ line :: (lines back).tail := by
        intro back hback
        rw [lines_append hfront (not_splitsSeparator_append hne hline front back),
          lines_append_of_startsWithLineEnd hline hback (.inl hne)]
      have hself := hends [] (by decide)
      rw [List.append_nil, lines_nil] at hself
      rw [List.append_assoc, hends _ hfeed, hself]
      exact .inl rfl

end SchemaAtlas.Text

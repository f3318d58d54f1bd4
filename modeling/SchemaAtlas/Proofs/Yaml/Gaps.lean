import SchemaAtlas.Yaml.Cursor

/-!
# Lines that are passed over

Moving on inside a line changes nothing but the rest of the text and the column (`advance_append`).
What stands between two entries of a block is a gap: blank lines and comments.

Main statement: behind a gap the reader is at the start of the line that follows
(`skipGap_gapText`).
-/

namespace SchemaAtlas.Yaml

/-- A test of the characters of a text goes through the text, not through all characters. -/
scoped instance (priority := high) decidableForallMem (cs : List Char) (p : Char → Prop)
    [DecidablePred p] : Decidable (∀ d ∈ cs, p d) :=
  cs.decidableBAll p

/-! ### Places in a line -/

/-- The columns that some characters take. -/
def width (cs : List Char) : Nat :=
  cs.countP (· != '\uFEFF')

/-- The place at the start of a line, before any label. -/
def Cursor.lineStart (rest : List Char) (line : Nat) : Cursor :=
  { rest, line }

/-- The text is at its end, or goes on with a character that stands for itself. -/
def BeginsText (rest : List Char) : Prop :=
  ∀ d ∈ rest.head?, d ≠ ' ' ∧ d ≠ '#' ∧ ¬ isBreak d

namespace Cursor

variable {cs rest : List Char} {c : Cursor} {p : Char → Bool}

theorem next_cons {d : Char} (h : c.rest = d :: rest) (hd : ¬ isBreak d) :
    c.next = { c with rest := rest, column := c.column + width [d] } := by
  rw [next, h]
  by_cases hmark : d = '\uFEFF' <;> simp_all [width]

theorem next_break {d : Char} (h : c.rest = d :: rest) (hd : isBreak d) :
    c.next = { c with rest := rest, column := 0, line := c.line + 1 } := by
  simp [next, h, hd]

/-- Inside a line nothing changes but the rest and the column. -/
theorem advance_append (h : c.rest = cs ++ rest) (hcs : ∀ d ∈ cs, ¬ isBreak d) :
    c.advance cs.length = { c with rest := rest, column := c.column + width cs } := by
  induction cs generalizing c with
  | nil =>
    obtain rfl : c.rest = rest := h
    rfl
  | cons d cs ih =>
    obtain ⟨hd, hcs⟩ := List.forall_mem_cons.1 hcs
    rw [List.length_cons, advance, next_cons h hd, ih rfl hcs]
    simp only [width, List.countP_cons, List.countP_nil]
    congr 1
    omega

theorem takeWhile_append (hcs : ∀ d ∈ cs, p d) (hrest : ∀ d ∈ rest.head?, ¬ p d) :
    (cs ++ rest).takeWhile p = cs := by
  rw [List.takeWhile_append_of_pos hcs]
  cases rest with
  | nil => simp
  | cons d rest => simp [hrest d rfl]

theorem skip_append (h : c.rest = cs ++ rest) (hcs : ∀ d ∈ cs, p d) (hline : ∀ d ∈ cs, ¬ isBreak d)
    (hrest : ∀ d ∈ rest.head?, ¬ p d) :
    c.skip p = { c with rest := rest, column := c.column + width cs } := by
  rw [skip, h, takeWhile_append hcs hrest, advance_append h hline]

theorem skip_of_head? (hrest : ∀ d ∈ c.rest.head?, ¬ p d) : c.skip p = c := by
  have hskip := skip_append (c := c) (p := p) (List.nil_append c.rest).symm nofun nofun hrest
  simpa [width] using hskip

end Cursor

/-! ### Gaps -/

/-- A line between entries is blank or a comment. -/
def IsGapLine (line : List Char) : Prop :=
  (line = [] ∨ line.head? = some '#') ∧ ∀ d ∈ line, ¬ isBreak d

instance : DecidablePred IsGapLine :=
  fun _ => inferInstanceAs (Decidable (_ ∧ _))

/-- The text of some lines. -/
def gapText (lines : List (List Char)) : List Char :=
  lines.flatMap (· ++ ['\n'])

section

variable {line rest : List Char} {lines : List (List Char)} {n fuel : Nat} {inFlow : Bool}
  {c : Cursor}

theorem skipGapFrom_of_skip {next : Cursor} (hskip : c.skip (· == ' ') = next)
    (h : BeginsText next.rest) : c.skipGapFrom inFlow (fuel + 1) = next := by
  have hcomment : ¬ next.head? = some '#' := fun hd => (h '#' hd).2.1 rfl
  have hbreak : ¬ next.head?.any isBreak := by
    rw [Option.any_eq_true]
    rintro ⟨d, hd, hbreak⟩
    exact (h d hd).2.2 hbreak
  simp [Cursor.skipGapFrom, hskip, hcomment, hbreak]

theorem skipGapFrom_of_beginsText (h : BeginsText c.rest) :
    c.skipGapFrom inFlow fuel = c := by
  cases fuel with
  | zero => rfl
  | succ fuel =>
    exact skipGapFrom_of_skip (Cursor.skip_of_head? fun d hd => by simp [(h d hd).1]) h

/-- The place where a text goes on is kept. -/
theorem skipGap_of_beginsText (h : BeginsText c.rest) : c.skipGap inFlow = c :=
  skipGapFrom_of_beginsText h

/-- Blanks in front of a text are passed. -/
theorem skipGap_blanks {blanks : List Char} (hblanks : ∀ d ∈ blanks, d = ' ')
    (hc : c.rest = blanks ++ rest) (h : BeginsText rest) :
    c.skipGap inFlow = { c with rest := rest, column := c.column + width blanks } := by
  refine skipGapFrom_of_skip ?_ h
  refine Cursor.skip_append hc (by simpa using hblanks) (fun d hd => ?_) fun d hd => ?_
  · rw [hblanks d hd]
    exact Bool.false_ne_true
  · simpa using (h d hd).1

/-- The rest of a line that is blank or a comment is passed. -/
theorem skipGapFrom_line (hline : IsGapLine line) (hlabels : c.labels = [])
    (hc : c.rest = line ++ '\n' :: rest) :
    c.skipGapFrom false (fuel + 1) =
      (Cursor.lineStart rest (c.line + 1)).skipGapFrom false fuel := by
  obtain ⟨hhead, hinner⟩ := hline
  have hblank : c.skip (· == ' ') = c := by
    refine Cursor.skip_of_head? ?_
    obtain rfl | hcomment := hhead
    · simp [hc]
    · simp [hc, List.head?_append, hcomment]
  have hcomment : (if c.head? == some '#' then c.skip fun d => !isBreak d else c) =
      { c with rest := '\n' :: rest, column := c.column + width line } := by
    obtain rfl | hcomment := hhead
    · have hc : c.rest = '\n' :: rest := hc
      rw [if_neg (by simp [Cursor.head?, hc]), ← hc]
      rfl
    · have hskip := Cursor.skip_append (c := c) (p := fun d => !isBreak d) hc
        (by simpa using hinner) hinner (by simp [isBreak])
      have hhead : c.head? = some '#' := by simp [Cursor.head?, hc, List.head?_append, hcomment]
      rw [hhead, hskip]
      rfl
  rw [Cursor.skipGapFrom, hblank]
  dsimp only
  rw [hcomment, Cursor.next_break rfl rfl, hlabels]
  simp [Cursor.head?, isBreak, Cursor.lineStart]

theorem skipGapFrom_gapText (hlines : ∀ line ∈ lines, IsGapLine line) (hrest : BeginsText rest)
    (hfuel : lines.length ≤ fuel) :
    (Cursor.lineStart (gapText lines ++ rest) n).skipGapFrom false fuel =
      Cursor.lineStart rest (n + lines.length) := by
  induction lines generalizing n fuel with
  | nil => exact skipGapFrom_of_beginsText hrest
  | cons line lines ih =>
    obtain ⟨hline, hlines⟩ := List.forall_mem_cons.1 hlines
    obtain ⟨fuel, rfl⟩ : ∃ k, fuel = k + 1 := ⟨fuel - 1, by simp at hfuel; omega⟩
    have htext : (Cursor.lineStart (gapText (line :: lines) ++ rest) n).rest =
        line ++ '\n' :: (gapText lines ++ rest) := by
      simp [Cursor.lineStart, gapText]
    rw [skipGapFrom_line hline rfl htext, ih hlines (by simpa using hfuel), List.length_cons]
    show Cursor.lineStart rest (n + 1 + lines.length) = _
    congr 1
    omega

/-- Blank lines at the start of a gap are line ends. -/
theorem gapText_eq_append (hlines : ∀ line ∈ lines, IsGapLine line) :
    ∃ k more, gapText lines = List.replicate k '\n' ++ gapText more ∧
      lines.length = k + more.length ∧ (∀ line ∈ more, IsGapLine line) ∧
      ∀ line ∈ more.head?, line.head? = some '#' := by
  induction lines with
  | nil => exact ⟨0, [], rfl, rfl, fun _ => nofun, fun _ => nofun⟩
  | cons line lines ih =>
    obtain ⟨hline, hmore⟩ := List.forall_mem_cons.1 hlines
    obtain rfl | hcomment := hline.1
    · obtain ⟨k, more, htext, hlength, hgap, hhead⟩ := ih hmore
      refine ⟨k + 1, more, ?_, by rw [List.length_cons, hlength]; omega, hgap, hhead⟩
      rw [List.replicate_succ, List.cons_append, ← htext]
      rfl
    · refine ⟨0, line :: lines, rfl, (Nat.zero_add _).symm, hlines, ?_⟩
      intro first hfirst
      obtain rfl := Option.some.inj hfirst
      exact hcomment

theorem length_le_length_gapText (lines : List (List Char)) :
    lines.length ≤ (gapText lines).length := by
  induction lines with
  | nil => exact Nat.le_refl 0
  | cons line lines ih =>
    have htext : gapText (line :: lines) = line ++ '\n' :: gapText lines := by simp [gapText]
    rw [htext, List.length_append, List.length_cons, List.length_cons]
    omega

/-- Behind a gap the reader is at the start of a line. -/
theorem skipGap_gapText (hlines : ∀ line ∈ lines, IsGapLine line) (hrest : BeginsText rest) :
    (Cursor.lineStart (gapText lines ++ rest) n).skipGap false =
      Cursor.lineStart rest (n + lines.length) := by
  refine skipGapFrom_gapText hlines hrest ?_
  have hlength := length_le_length_gapText lines
  show _ ≤ (gapText lines ++ rest).length + 1
  rw [List.length_append]
  omega

end

end SchemaAtlas.Yaml

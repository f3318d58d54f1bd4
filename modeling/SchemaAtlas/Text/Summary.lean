import SchemaAtlas.Text.Separated

/-!
# One-line summaries

`counted` writes a number with its noun, `countSummary` a list of such counts, `nameSummary` a list
of names of which only the first are spelled out, and `shortened` a text that is cut at a word to
fit a width.
-/

namespace SchemaAtlas.Text

/-- A count with its noun in the singular or plural. -/
def countedAs (count : Int) (singular plural : String) : String :=
  toString count ++ " " ++ (if count = 1 then singular else plural)

/-- A count with a noun whose plural ends in s. -/
def counted (count : Int) (noun : String) : String :=
  countedAs count noun (noun ++ "s")

/-- The counts that are not zero, or `nothing`. -/
def countSummary (counts : List (String × Int)) : String :=
  match counts.filter fun c => c.2 != 0 with
  | [] => "nothing"
  | counts => joined ", " (counts.map fun c => counted c.2 c.1)

/-- The first `shown` names, and the number of those left out. -/
def firstNames (shown : Nat) (names : List String) : String :=
  joined ", " (names.take shown) ++ ", +" ++ toString ((names.length : Int) - shown) ++ " more"

/-- A list of names in at most `width` characters.  Up to `shown` names are all spelled out; of more
the first two; where that is too wide, the first only, or just their number. -/
def nameSummary (shown width : Int) (names : List String) : String :=
  let fits := fun (s : String) => (s.length : Int) ≤ width
  let full := if (names.length : Int) ≤ shown then joined ", " names else firstNames 2 names
  if names.isEmpty then ""
  else if fits full then full
  else if fits (firstNames 1 names) then firstNames 1 names
  else counted names.length "name"

/-- How many names a summary spells out. -/
def usualNames : Int :=
  3

/-- How wide a summary of names may be. -/
def usualWidth : Int :=
  60

/-- The text in front of the last space, if there is a space. -/
def frontOfLastSpace? (cs : List Char) : Option (List Char) :=
  match cs.reverse.dropWhile (· != ' ') with
  | [] => none
  | _ :: front => some front.reverse

/-- A text cut to at most `width` characters, with `mark` at the place of the cut.  It is cut in
front of a space if there is one behind the first character. -/
def shortened (width : Int) (mark s : String) : String :=
  let room := width - mark.length
  if (s.length : Int) ≤ width then s
  else if room ≤ 0 then mark
  else
    let window := s.toList.take room.toNat
    match frontOfLastSpace? window with
    | some (c :: front) => .ofList (c :: front) ++ mark
    | _ => .ofList window ++ mark

/-- The mark at the place of a cut. -/
def usualMark : String :=
  "..."

/-- How wide a note may be before it is cut. -/
def noteWidth : Int :=
  40

theorem frontOfLastSpace?_eq_none_iff {cs : List Char} :
    frontOfLastSpace? cs = none ↔ ' ' ∉ cs := by
  have h : ∀ l : List Char, l.dropWhile (· != ' ') = [] ↔ ' ' ∉ l := by
    intro l
    induction l with
    | nil => simp
    | cons c l ih =>
      by_cases hc : c = ' '
      · simp [hc]
      · simp [hc, ih, Ne.symm hc]
  unfold frontOfLastSpace?
  split
  · rename_i he
    simpa using (h cs.reverse).1 he
  · rename_i he
    have hm : ' ' ∈ cs := Decidable.byContradiction fun hn =>
      List.cons_ne_nil _ _ (he.symm.trans ((h cs.reverse).2 (by simpa using hn)))
    simp [hm]

end SchemaAtlas.Text

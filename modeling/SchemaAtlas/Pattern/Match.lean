import SchemaAtlas.Pattern.Basic

/-!
# Matching patterns

`Pattern.run` tries a pattern at a place and then what is to follow it, and comes back to the
pattern's other choices where that fails.  `Marks` record where groups began and ended; a choice
that is taken back restores them, in full inside a repeated pattern and else by forgetting the
groups that were not known before.  `Pattern.occursIn` says whether some part of a text matches.

Three parts commit themselves to their first match: a look around, an atomic part and every round of
a possessive repetition.
-/

namespace SchemaAtlas

/-- The places at which groups began and ended, two for every group up to the highest one known. -/
abbrev Marks := List (Option Nat)

namespace Marks

/-- The marks with a place at position `i`; those that are skipped are open. -/
def put (marks : Marks) (i place : Nat) : Marks :=
  if i < marks.length then marks.set i (some place)
  else marks ++ List.replicate (i - marks.length) none ++ [some place]

/-- The marks as they were, where `now` are those of a choice that is taken back.  A partial return
only forgets what was not known. -/
def restored (full : Bool) (marks now : Marks) : Marks :=
  if full then marks else now.take marks.length

/-- Where a group began and ended, if it has matched. -/
def span? (marks : Marks) (number : Nat) : Option (Nat × Nat) :=
  match marks[2 * number]?, marks[2 * number + 1]? with
  | some (some start), some (some stop) => if start ≤ stop then some (start, stop) else none
  | _, _ => none

end Marks

/-- A place in a text, with the marks of the groups so far. -/
structure MatchPlace where
  index : Nat
  marks : Marks := []
  deriving DecidableEq

/-- The place `count` characters further on. -/
def MatchPlace.forward (place : MatchPlace) (count : Nat) : MatchPlace :=
  { place with index := place.index + count }

/-- The place with a mark of its own. -/
def MatchPlace.marked (place : MatchPlace) (i : Nat) : MatchPlace :=
  { place with marks := place.marks.put i place.index }

/-- What became of an attempt: where it ended, or the marks that it left behind. -/
inductive Trial where
  | matched (place : MatchPlace)
  | failed (marks : Marks)
  deriving DecidableEq

/-- The attempt succeeded. -/
def Trial.succeeded : Trial → Bool
  | matched _ => true
  | failed _ => false

/-- What is tried at a place. -/
abbrev Attempt := MatchPlace → Trial

/-- The first of some attempts that succeeds; the marks are restored after each failure. -/
def firstOf (full : Bool) : List Attempt → Attempt
  | [], place => .failed place.marks
  | attempt :: rest, place =>
    match attempt place with
    | .matched found => .matched found
    | .failed now => firstOf full rest { place with marks := place.marks.restored full now }

/-- The condition holds at a place. -/
def Anchor.holds (text : Array Char) (index : Nat) (a : Anchor) : Bool :=
  let before := if index = 0 then none else text[index - 1]?
  let after := text[index]?
  match a with
  | textStart => index == 0
  | lineStart => index == 0 || before == some '\n'
  | textEnd => after.isNone
  | lineEnd => after.isNone || after == some '\n'
  | lastLineEnd => after.isNone || (after == some '\n' && index + 1 == text.size)
  | boundary ascii =>
    let word := CharClass.word.holds ascii
    before.any word != after.any word
  | noBoundary ascii =>
    let word := CharClass.word.holds ascii
    !text.isEmpty && before.any word == after.any word

namespace Pattern

/-! ### Repetitions of a single character -/

/-- The number of characters from a place on, up to `most`, that a set holds. -/
def runLength (text : Array Char) (set : CharSet) (index : Nat) (most : Option Nat) : Nat :=
  let rest := text.toList.drop index
  let counted := match most with
    | some most => rest.take most
    | none => rest
  (counted.takeWhile set.holds).length

/-- A set of characters that is repeated. -/
def repeatedChar (text : Array Char) (full : Bool) (least : Nat) (most : Option Nat)
    (appetite : Appetite) (set : CharSet) (next : Attempt) : Attempt := fun place =>
  let count := runLength text set place.index most
  let counts := List.range' least (count + 1 - least)
  let behind := fun count place => next (MatchPlace.forward place count)
  if count < least then .failed place.marks
  else match appetite with
    | .greedy => firstOf full (counts.reverse.map behind) place
    | .reluctant => firstOf full (counts.map behind) place
    | .possessive => behind count place

/-! ### Repetitions of other patterns

A `body` is a pattern that still waits for what is to follow it. -/

/-- Rounds that have to be made before `next`. -/
def neededRounds (body : Attempt → Attempt) (next : Attempt) : (count : Nat) → Attempt
  | 0 => next
  | count + 1 => body (neededRounds body next count)

/-- As many further rounds as possible, at most `limit`, before `next`.  No round begins where the
one before it, at `last`, began. -/
def eagerRounds (body : Attempt → Attempt) (next : Attempt) :
    (limit : Nat) → (last : Option Nat) → Attempt
  | 0, _, place => next place
  | limit + 1, last, place =>
    if last = some place.index then next place
    else match body (eagerRounds body next limit (some place.index)) place with
      | .matched found => .matched found
      | .failed _ => next place

/-- As few further rounds as possible, at most `limit`, before `next`. -/
def reluctantRounds (full : Bool) (body : Attempt → Attempt) (next : Attempt) :
    (limit : Nat) → (last : Option Nat) → Attempt
  | 0, _, place => firstOf full [next] place
  | limit + 1, last, place =>
    match next place with
    | .matched found => .matched found
    | .failed now =>
      let place := { place with marks := place.marks.restored full now }
      if last = some place.index then .failed place.marks
      else body (reluctantRounds full body next limit (some place.index)) place

/-- Rounds that have to be made, each of which keeps its first match, before `next`. -/
def keptRounds (round next : Attempt) : (count : Nat) → Attempt
  | 0, place => next place
  | count + 1, place =>
    match round place with
    | .matched found => keptRounds round next count found
    | .failed now => .failed now

/-- Further rounds as long as they match and move on, at most `limit`, before `next`. -/
def possessiveRounds (round next : Attempt) : (limit : Nat) → Attempt
  | 0, place => next place
  | limit + 1, place =>
    match round place with
    | .matched found =>
      if found.index = place.index then next found else possessiveRounds round next limit found
    | .failed _ => next place

/-- A pattern that is repeated.  Every further round but one moves on, so the length of the text
bounds their number. -/
def repeated (text : Array Char) (full : Bool) (least : Nat) (most : Option Nat)
    (appetite : Appetite) (body : Attempt → Attempt) (next : Attempt) : Attempt :=
  let limit := match most with
    | some most => min (most - least) (text.size + 1)
    | none => text.size + 1
  match appetite with
  | .greedy => neededRounds body (eagerRounds body next limit none) least
  | .reluctant => neededRounds body (reluctantRounds full body next limit none) least
  | .possessive =>
    keptRounds (body .matched) (possessiveRounds (body .matched) next limit) least

/-! ### All patterns -/

/-- The text of a group stands at a place once more. -/
def standsAt (text : Array Char) (mode : Comparison) (start stop index : Nat) : Bool :=
  (List.range (stop - start)).all fun i =>
    match text[start + i]?, text[index + i]? with
    | some c, some d => mode.reduced c == mode.reduced d
    | _, _ => false

/-- Tries a pattern and then `next`; `full` says that the pattern stands inside a repeated one whose
rounds may be taken back. -/
def run (text : Array Char) : Pattern → (full : Bool) → (next : Attempt) → Attempt
  | empty, _, next => next
  | char set, _, next => fun place =>
    if text[place.index]?.any set.holds then next (place.forward 1) else .failed place.marks
  | anchor a, _, next => fun place =>
    if a.holds text place.index then next place else .failed place.marks
  | follow first second, full, next => run text first full (run text second full next)
  | either first second, full, next =>
    firstOf full [run text first full next, run text second full next]
  | group number inner, full, next => fun place =>
    run text inner full (fun found => next (found.marked (2 * number + 1)))
      (place.marked (2 * number))
  | same number mode, _, next => fun place =>
    match place.marks.span? number with
    | some (start, stop) =>
      if standsAt text mode start stop place.index then next (place.forward (stop - start))
      else .failed place.marks
    | none => .failed place.marks
  | rounds least most appetite (char set), full, next =>
    repeatedChar text full least most appetite set next
  | rounds least most appetite inner, full, next =>
    repeated text full least most appetite (run text inner (full || appetite != .possessive)) next
  | ahead wanted inner, full, next => fun place =>
    look full wanted next (run text inner full .matched) place place
  | behind wanted width inner, full, next => fun place =>
    if width ≤ place.index then
      look full wanted next (run text inner full .matched)
        { place with index := place.index - width } place
    else if wanted then .failed place.marks else next place
  | atomic inner, full, next => fun place =>
    match run text inner full .matched place with
    | .matched found => next found
    | .failed now => .failed now
  | ifMatched number yes no, full, next => fun place =>
    if (place.marks.span? number).isSome then run text yes full next place
    else run text no full next place
where
  /-- Looks from the place `start`, and goes on from `place` if what is seen is wanted. -/
  look (full wanted : Bool) (next seen : Attempt) (start place : MatchPlace) : Trial :=
    match seen start with
    | .matched found =>
      if wanted then next { place with marks := found.marks } else .failed found.marks
    | .failed now =>
      if wanted then .failed now
      else next { place with marks := place.marks.restored full now }

/-- Some part of the text matches. -/
def occursIn (p : Pattern) (s : String) : Bool :=
  let text := s.toList.toArray
  (List.range (text.size + 1)).any fun start =>
    (p.run text false .matched { index := start }).succeeded

end Pattern

end SchemaAtlas

import SchemaAtlas.Text.Blank
import SchemaAtlas.Text.CaseFree
import SchemaAtlas.Text.Digit
import SchemaAtlas.Text.Word

/-!
# Patterns

A `Pattern` describes texts.  Its leaves are sets of characters (`CharSet`), conditions on a place
(`Anchor`) and what a group has matched; the rest puts patterns together.  `Pattern.widths` is the
least and the greatest length of what a pattern matches.
-/

namespace SchemaAtlas

open Text

/-- How characters are compared. -/
structure Comparison where
  /-- Letters stand for both of their cases. -/
  ignoreCase : Bool := false
  /-- Named classes and letter case know only the first 128 code points. -/
  ascii : Bool := false
  deriving DecidableEq

/-- The character that stands for `c` and for all that is equal to it but for case. -/
def Comparison.reduced (mode : Comparison) (c : Char) : Char :=
  if !mode.ignoreCase then c
  else if mode.ascii then c.toLower
  else plainLower c

/-- The code points that are equal to the reduced one `n`. -/
def Comparison.partners (mode : Comparison) (n : Nat) : List Nat :=
  if !mode.ignoreCase then [n]
  else if mode.ascii then if 97 ≤ n ∧ n ≤ 122 then [n, n - 32] else [n]
  else casePartners n

/-- A class of characters that has a name. -/
inductive CharClass where
  | digit
  | blank
  | word
  deriving DecidableEq

/-- The character is in the class; an `ascii` class holds only the first 128 code points. -/
def CharClass.holds (ascii : Bool) (kind : CharClass) (c : Char) : Bool :=
  (!ascii || c.toNat < 128) &&
    match kind with
    | digit => isDecimalDigit c
    | blank => isBlank c && !(ascii && 28 ≤ c.toNat && c.toNat ≤ 31)
    | word => isWord c

/-- One item of a set of characters. -/
inductive SetItem where
  | code (n : Nat)
  /-- The code points from `first` to `last`. -/
  | range (first last : Nat)
  /-- A named class or all that is outside it. -/
  | named (kind : CharClass) (negated : Bool)
  deriving DecidableEq

/-- The code points beyond the basic plane. -/
def isAstral (n : Nat) : Bool :=
  0x10000 ≤ n

/-- The item of a set of several holds the reduced character `c`.  Beyond the basic plane a single
item stands for itself alone, and a range for both cases of its letters even where the mode knows
the first 128 code points only. -/
def SetItem.holds (mode : Comparison) (c : Char) : SetItem → Bool
  | code n => if isAstral n then c.toNat == n else (mode.partners c.toNat).contains n
  | range first last =>
    let within := fun n => first ≤ n && n ≤ last
    (mode.partners c.toNat).any within ||
      (mode.ignoreCase && isAstral last && (within c.toNat || within (plainUpper c.toNat)))
  | named kind negated => kind.holds mode.ascii c != negated

/-- A set of characters. -/
structure CharSet where
  negated : Bool := false
  items : List SetItem
  mode : Comparison := {}
  deriving DecidableEq

/-- The set holds a character. -/
def CharSet.holds (set : CharSet) (c : Char) : Bool :=
  let c := set.mode.reduced c
  let found := match set.items with
    | [.code n] => (set.mode.partners c.toNat).contains n
    | items => items.any (SetItem.holds set.mode c)
  found != set.negated

/-- A condition on a place in a text. -/
inductive Anchor where
  | textStart
  | lineStart
  | textEnd
  | lineEnd
  /-- The end of the text, or the line feed that the text ends with. -/
  | lastLineEnd
  | boundary (ascii : Bool)
  | noBoundary (ascii : Bool)
  deriving DecidableEq

/-- How a repetition chooses the number of its rounds. -/
inductive Appetite where
  | greedy
  | reluctant
  /-- As many rounds as possible, without giving any back. -/
  | possessive
  deriving DecidableEq

/-- A description of texts. -/
inductive Pattern where
  | empty
  | char (set : CharSet)
  | anchor (a : Anchor)
  | follow (first second : Pattern)
  | either (first second : Pattern)
  /-- A group that keeps what it matches, counted from zero. -/
  | group (number : Nat) (inner : Pattern)
  /-- The text that a group has matched. -/
  | same (number : Nat) (mode : Comparison)
  | rounds (least : Nat) (most : Option Nat) (appetite : Appetite) (inner : Pattern)
  | ahead (wanted : Bool) (inner : Pattern)
  /-- A look at the `width` characters in front of the place. -/
  | behind (wanted : Bool) (width : Nat) (inner : Pattern)
  | atomic (inner : Pattern)
  /-- The first pattern if the group has matched, else the second. -/
  | ifMatched (number : Nat) (yes no : Pattern)
  deriving DecidableEq, Inhabited

namespace Pattern

/-- Patterns one after another. -/
def sequence : List Pattern → Pattern
  | [] => empty
  | [p] => p
  | p :: rest => follow p (sequence rest)

/-- Patterns of which one has to match. -/
def choice : List Pattern → Pattern
  | [] => empty
  | [p] => p
  | p :: rest => either p (choice rest)

/-- The least and the greatest length of what a pattern matches; there may be no greatest. -/
abbrev Widths := Nat × Option Nat

/-- The widths of one text behind another. -/
def Widths.add (a b : Widths) : Widths :=
  (a.1 + b.1, match a.2, b.2 with
    | some m, some n => some (m + n)
    | _, _ => none)

/-- The widths of one of two texts. -/
def Widths.or (a b : Widths) : Widths :=
  (min a.1 b.1, match a.2, b.2 with
    | some m, some n => some (max m n)
    | _, _ => none)

/-- The widths of a number of texts. -/
def Widths.times (a : Widths) (least : Nat) (most : Option Nat) : Widths :=
  (least * a.1, match most, a.2 with
    | _, some 0 => some 0
    | some 0, _ => some 0
    | some most, some n => some (most * n)
    | _, _ => none)

/-- The widths of a pattern, where `groups` are those of the groups. -/
def widths (groups : Nat → Widths) : Pattern → Widths
  | empty | anchor _ | ahead .. | behind .. => (0, some 0)
  | char _ => (1, some 1)
  | follow first second => (widths groups first).add (widths groups second)
  | either first second | ifMatched _ first second =>
    (widths groups first).or (widths groups second)
  | group _ inner | atomic inner => widths groups inner
  | same number _ => groups number
  | rounds least most _ inner => (widths groups inner).times least most

end Pattern

end SchemaAtlas

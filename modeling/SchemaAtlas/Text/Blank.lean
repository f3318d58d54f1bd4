/-!
# Blank characters

`isBlank` is the white space of the schema language: every Unicode space, line and paragraph
separator together with the control characters that separate lines, fields and records.  A zero
width space and a byte order mark are not blank.

`trimLeft`, `trimRight` and `trim` remove blank characters at the ends of a text, and `firstWord?`
is the first run of other characters.
-/

namespace SchemaAtlas.Text

/-- White space of the schema language. -/
def isBlank (c : Char) : Bool :=
  let n := c.toNat
  (9 ≤ n && n ≤ 13) || (28 ≤ n && n ≤ 32) || n == 0x85 || n == 0xA0 || n == 0x1680 ||
    (0x2000 ≤ n && n ≤ 0x200A) || n == 0x2028 || n == 0x2029 || n == 0x202F || n == 0x205F ||
    n == 0x3000

/-- The text without the blank characters it starts with. -/
def trimLeft (cs : List Char) : List Char :=
  cs.dropWhile isBlank

/-- The text without the blank characters it ends with. -/
def trimRight (cs : List Char) : List Char :=
  (cs.reverse.dropWhile isBlank).reverse

/-- The text without the blank characters at both ends. -/
def trim (cs : List Char) : List Char :=
  trimRight (trimLeft cs)

/-- The first run of characters that are not blank. -/
def firstWord? (cs : List Char) : Option (List Char) :=
  match trimLeft cs with
  | [] => none
  | c :: rest => some (c :: rest.takeWhile fun d => !isBlank d)

/-- `trim` on strings. -/
def trimmed (s : String) : String :=
  .ofList (trim s.toList)

@[simp] theorem trim_nil : trim [] = [] := rfl

theorem firstWord?_eq_none_iff {cs : List Char} : firstWord? cs = none ↔ cs.all isBlank := by
  unfold firstWord? trimLeft
  induction cs with
  | nil => simp
  | cons c cs ih =>
    by_cases h : isBlank c
    · simpa [h] using ih
    · simp [h]

end SchemaAtlas.Text

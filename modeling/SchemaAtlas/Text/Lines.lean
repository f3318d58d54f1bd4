/-!
# Lines of a text

A line ends at a line feed, a carriage return (with the line feed that may follow it), a vertical
tab, a form feed, one of the separators U+001C to U+001E, U+0085, U+2028 or U+2029.  `lines` cuts a
text there; a separator at the very end opens no further line.
-/

namespace SchemaAtlas.Text

/-- Characters that end a line. -/
def isLineEnd (c : Char) : Bool :=
  let n := c.toNat
  (10 ≤ n && n ≤ 13) || (0x1C ≤ n && n ≤ 0x1E) || n == 0x85 || n == 0x2028 || n == 0x2029

/-- The lines of a text, without their separators. -/
def lines : List Char → List (List Char)
  | [] => []
  | '\r' :: '\n' :: rest => [] :: lines rest
  | c :: rest =>
    if isLineEnd c then [] :: lines rest
    else match lines rest with
      | [] => [[c]]
      | line :: more => (c :: line) :: more

/-- Line separators as text files are read: a carriage return, alone or before a line feed, counts
as a line feed. -/
def unifyNewlines : List Char → List Char
  | [] => []
  | '\r' :: '\n' :: rest => '\n' :: unifyNewlines rest
  | c :: rest => (if c = '\r' then '\n' else c) :: unifyNewlines rest

@[simp] theorem lines_nil : lines [] = [] := by
  simp [lines]

end SchemaAtlas.Text

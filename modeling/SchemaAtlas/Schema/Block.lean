/-!
# Blocks in braces

A block starts at a header line and ends at the line on which its braces are closed again.  Braces
are counted wherever they stand.  `Block.read?` reads the block of a header from the lines behind
it, and `Block.at?` does the same for a header that is given by its position.
-/

namespace SchemaAtlas

/-- A line of schema text. -/
abbrev Line := List Char

/-- A block: the lines strictly between its header and its closing line. -/
structure Block where
  body : List Line
  /-- Number of lines behind the header up to the closing line, which is 0 if the header closes the
  block itself. -/
  extent : Nat

namespace Block

/-- How many more braces a line opens than it closes. -/
def balance (line : Line) : Int :=
  (line.count '\x7b' : Int) - (line.count '\x7d' : Int)

/-- Braces open behind a header.  A header without an opening brace opens its block all the same. -/
def headerDepth (header : Line) : Int :=
  if header.contains '\x7b' then balance header else 1

/-- How many lines come before the one that closes `depth` open braces. -/
def bodyLength? (depth : Int) : List Line → Option Nat
  | [] => none
  | line :: rest =>
    if depth + balance line ≤ 0 then some 0
    else (bodyLength? (depth + balance line) rest).map (· + 1)

/-- The block of a header from the lines behind it; there is none if it is never closed. -/
def read? (header : Line) (rest : List Line) : Option Block :=
  if headerDepth header ≤ 0 then some ⟨[], 0⟩
  else (bodyLength? (headerDepth header) rest).map fun n => ⟨rest.take n, n + 1⟩

/-- A position at which there is no line. -/
inductive PositionFault where
  | outOfRange
  deriving DecidableEq

/-- A position in a list of `count` lines, where negative positions count from the end. -/
def position? (count : Nat) (index : Int) : Option Nat :=
  let i := if index < 0 then index + count else index
  if 0 ≤ i && i < count then some i.toNat else none

/-- The lines that follow a position.  Reading goes on through the whole list after a position that
was counted from its end. -/
def linesBehind (lines : List Line) (index : Int) : List Line :=
  if index + 1 < 0 then lines.drop (index + 1 + lines.length).toNat ++ lines
  else lines.drop (index + 1).toNat

/-- The block whose header is at a position, with the position behind its closing line. -/
def at? (lines : List Line) (index : Int) : Except PositionFault (Option (Block × Int)) :=
  match (position? lines.length index).bind (lines[·]?) with
  | none => .error .outOfRange
  | some header =>
    .ok ((read? header (linesBehind lines index)).map fun block =>
      (block, index + 1 + block.extent))

theorem bodyLength?_lt {depth : Int} {lines : List Line} {n : Nat}
    (h : bodyLength? depth lines = some n) : n < lines.length := by
  induction lines generalizing depth n with
  | nil => simp [bodyLength?] at h
  | cons line rest ih =>
    simp only [bodyLength?] at h
    split at h
    · simp at h
      simp [← h]
    · obtain ⟨k, hk, rfl⟩ := Option.map_eq_some_iff.1 h
      have := ih hk
      simp only [List.length_cons]
      omega

theorem extent_le {header : Line} {rest : List Line} {block : Block}
    (h : read? header rest = some block) : block.extent ≤ rest.length := by
  unfold read? at h
  split at h
  · obtain rfl := Option.some.inj h
    simp
  · obtain ⟨n, hn, rfl⟩ := Option.map_eq_some_iff.1 h
    exact bodyLength?_lt hn

end Block

end SchemaAtlas

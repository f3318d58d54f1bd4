import SchemaAtlas.Data.Literal

/-!
# Writing JSON

`toJson` writes a value on one line, and `toIndentedJson` with every item and member on a line of
its own, two blanks deeper than what holds it.  Only printable characters of the first 128 code
points stand for themselves in texts; all others are escaped, those beyond U+FFFF as a pair of
units.
-/

namespace SchemaAtlas.Json

open Text

/-- One escaped code unit. -/
def unitEscape (n : Nat) : List Char :=
  '\\' :: 'u' :: hex 4 n

/-- A character inside a JSON text. -/
def stringChar (c : Char) : List Char :=
  let n := c.toNat
  if c = '"' || c = '\\' then ['\\', c]
  else if c = '\n' then ['\\', 'n']
  else if c = '\r' then ['\\', 'r']
  else if c = '\t' then ['\\', 't']
  else if n = 8 then ['\\', 'b']
  else if n = 12 then ['\\', 'f']
  else if 32 ≤ n && n < 127 then [c]
  else if n < 0x10000 then unitEscape n
  else unitEscape (0xD800 + (n - 0x10000) / 0x400) ++ unitEscape (0xDC00 + (n - 0x10000) % 0x400)

/-- A text between double quotes. -/
def string (s : String) : String :=
  .ofList ('"' :: s.toList.flatMap stringChar ++ ['"'])

/-- A number in double precision; those that are not finite have names. -/
def real (x : Binary64) : String :=
  if x.isFinite then x.text
  else if x.isNaN then "NaN"
  else if x.isNegative then "-Infinity" else "Infinity"

/-- The text of a scalar that is no text. -/
def plain : Scalar → String
  | .null => "null"
  | .bool b => if b then "true" else "false"
  | .real x => real x
  | s => s.shown

/-- A scalar; what has no form of its own is written as a text. -/
def scalar : Scalar → String
  | .text s => string s
  | .date d => string d.text
  | .moment m => string m.text
  | s => plain s

/-- The key of a member, which is always a text. -/
def name : Scalar → String
  | .text s => string s
  | s => string (plain s)

/-- The separators of a layout: around the parts of a value that stands `depth` deep. -/
structure Layout where
  opening : Nat → String
  between : Nat → String
  closing : Nat → String
  behindName : String

/-- Everything on one line. -/
def oneLine : Layout where
  opening _ := ""
  between _ := ", "
  closing _ := ""
  behindName := ": "

/-- The start of a line that is indented `depth` times. -/
def newLine (depth : Nat) : String :=
  "\n" ++ .ofList (List.replicate (2 * depth) ' ')

/-- Every part on a line of its own. -/
def indented : Layout where
  opening depth := newLine (depth + 1)
  between depth := "," ++ newLine (depth + 1)
  closing depth := newLine depth
  behindName := ": "

mutual

/-- The value, `depth` deep, in the given layout. -/
def write (layout : Layout) (depth : Nat) : Data → String
  | .scalar s => scalar s
  | .list [] => "[]"
  | .list (item :: rest) =>
    "[" ++ layout.opening depth ++
      joined (layout.between depth) (writeItems layout (depth + 1) (item :: rest)) ++
      layout.closing depth ++ "]"
  | .mapping [] => "\x7b\x7d"
  | .mapping (entry :: rest) =>
    "\x7b" ++ layout.opening depth ++
      joined (layout.between depth) (writeMembers layout (depth + 1) (entry :: rest)) ++
      layout.closing depth ++ "\x7d"

/-- The items of a list. -/
def writeItems (layout : Layout) (depth : Nat) : List Data → List String
  | [] => []
  | item :: rest => write layout depth item :: writeItems layout depth rest

/-- The members of a mapping. -/
def writeMembers (layout : Layout) (depth : Nat) : List (Scalar × Data) → List String
  | [] => []
  | (key, value) :: rest =>
    (name key ++ layout.behindName ++ write layout depth value) ::
      writeMembers layout depth rest

end

end SchemaAtlas.Json

namespace SchemaAtlas

/-- The value as JSON on one line. -/
def Data.toJson (value : Data) : String :=
  Json.write Json.oneLine 0 value

/-- The value as JSON with one part a line. -/
def Data.toIndentedJson (value : Data) : String :=
  Json.write Json.indented 0 value

end SchemaAtlas

import SchemaAtlas.Text.Digit
import SchemaAtlas.Text.LetterNames
import SchemaAtlas.Text.SymbolNames

/-!
# Characters by name

`namedCodePoint?` finds a character by its name.  Ideographs are named by their code points and the
syllables of Hangul by their letters, both in capitals; all other names stand in tables, where case
does not matter: `letterNames`, `symbolNames` and, for the control characters and some well-known
short forms, `secondNames`.

The tables hold the blocks that their headings tell, about a fifth of the names that are neither of
ideographs nor of Hangul.  They leave out all other scripts, living and historical ones, the patterns
of Braille, the signs of music, alchemy and games, part of the pictures, and the names of sequences.  A
name that is left out counts as unknown: `namedCodePoint?` finds fewer characters than have a name, and
a pattern with such a name is refused.
-/

namespace SchemaAtlas.Text

/-- Names of control characters, and further names of others. -/
def secondNames : List (Nat × List String) :=
  [(0x0, ["NULL", "NUL"]), (0x1, ["START OF HEADING", "SOH"]), (0x2, ["START OF TEXT", "STX"]),
    (0x3, ["END OF TEXT", "ETX"]), (0x4, ["END OF TRANSMISSION", "EOT"]), (0x5, ["ENQUIRY", "ENQ"]),
    (0x6, ["ACKNOWLEDGE", "ACK"]), (0x7, ["ALERT", "BEL"]), (0x8, ["BACKSPACE", "BS"]),
    (0x9, ["CHARACTER TABULATION", "HORIZONTAL TABULATION", "HT", "TAB"]),
    (0xA, ["LINE FEED", "NEW LINE", "END OF LINE", "LF", "NL", "EOL"]),
    (0xB, ["LINE TABULATION", "VERTICAL TABULATION", "VT"]), (0xC, ["FORM FEED", "FF"]),
    (0xD, ["CARRIAGE RETURN", "CR"]), (0xE, ["SHIFT OUT", "LOCKING-SHIFT ONE", "SO"]),
    (0xF, ["SHIFT IN", "LOCKING-SHIFT ZERO", "SI"]), (0x10, ["DATA LINK ESCAPE", "DLE"]),
    (0x11, ["DEVICE CONTROL ONE", "DC1"]), (0x12, ["DEVICE CONTROL TWO", "DC2"]),
    (0x13, ["DEVICE CONTROL THREE", "DC3"]), (0x14, ["DEVICE CONTROL FOUR", "DC4"]),
    (0x15, ["NEGATIVE ACKNOWLEDGE", "NAK"]), (0x16, ["SYNCHRONOUS IDLE", "SYN"]),
    (0x17, ["END OF TRANSMISSION BLOCK", "ETB"]), (0x18, ["CANCEL", "CAN"]),
    (0x19, ["END OF MEDIUM", "EOM"]), (0x1A, ["SUBSTITUTE", "SUB"]), (0x1B, ["ESCAPE", "ESC"]),
    (0x1C, ["INFORMATION SEPARATOR FOUR", "FILE SEPARATOR", "FS"]),
    (0x1D, ["INFORMATION SEPARATOR THREE", "GROUP SEPARATOR", "GS"]),
    (0x1E, ["INFORMATION SEPARATOR TWO", "RECORD SEPARATOR", "RS"]),
    (0x1F, ["INFORMATION SEPARATOR ONE", "UNIT SEPARATOR", "US"]), (0x20, ["SP"]),
    (0x7F, ["DELETE", "DEL"]), (0x80, ["PADDING CHARACTER", "PAD"]),
    (0x81, ["HIGH OCTET PRESET", "HOP"]), (0x82, ["BREAK PERMITTED HERE", "BPH"]),
    (0x83, ["NO BREAK HERE", "NBH"]), (0x84, ["INDEX", "IND"]), (0x85, ["NEXT LINE", "NEL"]),
    (0x86, ["START OF SELECTED AREA", "SSA"]), (0x87, ["END OF SELECTED AREA", "ESA"]),
    (0x88, ["CHARACTER TABULATION SET", "HORIZONTAL TABULATION SET", "HTS"]),
    (0x89,
      ["CHARACTER TABULATION WITH JUSTIFICATION", "HORIZONTAL TABULATION WITH JUSTIFICATION",
       "HTJ"]),
    (0x8A, ["LINE TABULATION SET", "VERTICAL TABULATION SET", "VTS"]),
    (0x8B, ["PARTIAL LINE FORWARD", "PARTIAL LINE DOWN", "PLD"]),
    (0x8C, ["PARTIAL LINE BACKWARD", "PARTIAL LINE UP", "PLU"]),
    (0x8D, ["REVERSE LINE FEED", "REVERSE INDEX", "RI"]),
    (0x8E, ["SINGLE SHIFT TWO", "SINGLE-SHIFT-2", "SS2"]),
    (0x8F, ["SINGLE SHIFT THREE", "SINGLE-SHIFT-3", "SS3"]),
    (0x90, ["DEVICE CONTROL STRING", "DCS"]), (0x91, ["PRIVATE USE ONE", "PRIVATE USE-1", "PU1"]),
    (0x92, ["PRIVATE USE TWO", "PRIVATE USE-2", "PU2"]), (0x93, ["SET TRANSMIT STATE", "STS"]),
    (0x94, ["CANCEL CHARACTER", "CCH"]), (0x95, ["MESSAGE WAITING", "MW"]),
    (0x96, ["START OF GUARDED AREA", "START OF PROTECTED AREA", "SPA"]),
    (0x97, ["END OF GUARDED AREA", "END OF PROTECTED AREA", "EPA"]),
    (0x98, ["START OF STRING", "SOS"]), (0x99, ["SINGLE GRAPHIC CHARACTER INTRODUCER", "SGC"]),
    (0x9A, ["SINGLE CHARACTER INTRODUCER", "SCI"]), (0x9B, ["CONTROL SEQUENCE INTRODUCER", "CSI"]),
    (0x9C, ["STRING TERMINATOR", "ST"]), (0x9D, ["OPERATING SYSTEM COMMAND", "OSC"]),
    (0x9E, ["PRIVACY MESSAGE", "PM"]), (0x9F, ["APPLICATION PROGRAM COMMAND", "APC"]),
    (0xA0, ["NBSP"]), (0xAD, ["SHY"]), (0x1A2, ["LATIN CAPITAL LETTER GHA"]),
    (0x1A3, ["LATIN SMALL LETTER GHA"]), (0x34F, ["CGJ"]), (0x61C, ["ALM"]), (0x200B, ["ZWSP"]),
    (0x200C, ["ZWNJ"]), (0x200D, ["ZWJ"]), (0x200E, ["LRM"]), (0x200F, ["RLM"]), (0x202A, ["LRE"]),
    (0x202B, ["RLE"]), (0x202C, ["PDF"]), (0x202D, ["LRO"]), (0x202E, ["RLO"]), (0x202F, ["NNBSP"]),
    (0x205F, ["MMSP"]), (0x2060, ["WJ"]), (0x2066, ["LRI"]), (0x2067, ["RLI"]), (0x2068, ["FSI"]),
    (0x2069, ["PDI"]), (0x2118, ["WEIERSTRASS ELLIPTIC FUNCTION"]),
    (0xFEFF, ["BYTE ORDER MARK", "BOM", "ZWNBSP"]),
    (0xFE18, ["PRESENTATION FORM FOR VERTICAL RIGHT WHITE LENTICULAR BRACKET"])]

/-- Numbered selectors of variants by their short names. -/
def selectorNames : NameRun :=
  ⟨0xFE00, 1, "VS", (List.range 16).map fun i => toString (i + 1)⟩

/-- A code point by a name of the tables, in capitals. -/
def tabledCodePoint? (name : String) : Option Nat :=
  (letterNames ++ symbolNames ++ [selectorNames]).findSome? (·.find? name) <|>
    secondNames.findSome? fun (n, names) => if name ∈ names then some n else none

/-! ### Hangul -/

/-- Letters that a syllable begins with, one of them silent. -/
def hangulLeads : List String :=
  ["G", "GG", "N", "D", "DD", "R", "M", "B", "BB", "S", "SS", "", "J", "JJ", "C", "K", "T", "P",
    "H"]

/-- Vowels of a syllable. -/
def hangulVowels : List String :=
  ["A", "AE", "YA", "YAE", "EO", "E", "YEO", "YE", "O", "WA", "WAE", "OE", "YO", "U", "WEO", "WE",
    "WI", "YU", "EU", "YI", "I"]

/-- Letters that a syllable ends with; it may end with none. -/
def hangulTails : List String :=
  ["", "G", "GG", "GS", "N", "NJ", "NH", "D", "L", "LG", "LM", "LB", "LS", "LT", "LP", "LH", "M",
    "B", "BS", "S", "SS", "NG", "J", "C", "K", "T", "P", "H"]

/-- A syllable of Hangul by its letters. -/
def hangulCodePoint? (letters : List Char) : Option Nat :=
  hangulLeads.zipIdx.findSome? fun (lead, i) => do
    let rest ← lead.toList.isPrefixOf? letters
    hangulVowels.zipIdx.findSome? fun (vowel, j) => do
      let tail ← vowel.toList.isPrefixOf? rest
      let k ← hangulTails.findIdx? (·.toList == tail)
      return 0xAC00 + (i * hangulVowels.length + j) * hangulTails.length + k

/-! ### Ideographs -/

/-- The ideographs that are named by their code points. -/
def ideographRanges : List (Nat × Nat) :=
  [(0x3400, 0x4DBF), (0x4E00, 0x9FFF), (0x20000, 0x2A6DF), (0x2A700, 0x2B738), (0x2B740, 0x2B81D),
    (0x2B820, 0x2CEA1), (0x2CEB0, 0x2EBE0), (0x30000, 0x3134A)]

/-- An ideograph by the four or five digits of its code point. -/
def ideograph? (digits : List Char) : Option Nat :=
  let n := natOfDigits 16 digits
  if (digits.length = 4 ∨ digits.length = 5) ∧
      digits.all (fun c => c.isDigit || ('A' ≤ c && c ≤ 'F')) ∧
      ideographRanges.any fun r => r.1 ≤ n && n ≤ r.2 then some n
  else none

/-- The code point with a name. -/
def namedCodePoint? (name : String) : Option Nat :=
  match "HANGUL SYLLABLE ".toList.isPrefixOf? name.toList with
  | some letters => hangulCodePoint? letters
  | none =>
    match "CJK UNIFIED IDEOGRAPH-".toList.isPrefixOf? name.toList with
    | some digits => ideograph? digits
    | none => tabledCodePoint? name.toUpper

end SchemaAtlas.Text

import SchemaAtlas.Text.NameRun

/-!
# Names of symbols

The names of the general punctuation, of signs of money, arrows, operators, frames, shapes and
pictures.
-/

namespace SchemaAtlas.Text

/-- Symbols, in the order of their code points within each block. -/
def symbolNames : List NameRun :=
  [⟨0x2000, 1, "",
      ["EN QUAD", "EM QUAD", "EN SPACE", "EM SPACE", "THREE-PER-EM SPACE", "FOUR-PER-EM SPACE",
       "SIX-PER-EM SPACE", "FIGURE SPACE", "PUNCTUATION SPACE", "THIN SPACE", "HAIR SPACE",
       "ZERO WIDTH SPACE", "ZERO WIDTH NON-JOINER", "ZERO WIDTH JOINER", "LEFT-TO-RIGHT MARK",
       "RIGHT-TO-LEFT MARK", "HYPHEN", "NON-BREAKING HYPHEN", "FIGURE DASH", "EN DASH", "EM DASH",
       "HORIZONTAL BAR", "DOUBLE VERTICAL LINE", "DOUBLE LOW LINE", "LEFT SINGLE QUOTATION MARK",
       "RIGHT SINGLE QUOTATION MARK", "SINGLE LOW-9 QUOTATION MARK",
       "SINGLE HIGH-REVERSED-9 QUOTATION MARK", "LEFT DOUBLE QUOTATION MARK",
       "RIGHT DOUBLE QUOTATION MARK", "DOUBLE LOW-9 QUOTATION MARK",
       "DOUBLE HIGH-REVERSED-9 QUOTATION MARK", "DAGGER", "DOUBLE DAGGER", "BULLET",
       "TRIANGULAR BULLET", "ONE DOT LEADER", "TWO DOT LEADER", "HORIZONTAL ELLIPSIS",
       "HYPHENATION POINT", "LINE SEPARATOR", "PARAGRAPH SEPARATOR", "LEFT-TO-RIGHT EMBEDDING",
       "RIGHT-TO-LEFT EMBEDDING", "POP DIRECTIONAL FORMATTING", "LEFT-TO-RIGHT OVERRIDE",
       "RIGHT-TO-LEFT OVERRIDE", "NARROW NO-BREAK SPACE", "PER MILLE SIGN",
       "PER TEN THOUSAND SIGN", "PRIME", "DOUBLE PRIME", "TRIPLE PRIME", "REVERSED PRIME",
       "REVERSED DOUBLE PRIME", "REVERSED TRIPLE PRIME", "CARET",
       "SINGLE LEFT-POINTING ANGLE QUOTATION MARK", "SINGLE RIGHT-POINTING ANGLE QUOTATION MARK",
       "REFERENCE MARK", "DOUBLE EXCLAMATION MARK", "INTERROBANG", "OVERLINE", "UNDERTIE",
       "CHARACTER TIE", "CARET INSERTION POINT", "ASTERISM", "HYPHEN BULLET", "FRACTION SLASH",
       "LEFT SQUARE BRACKET WITH QUILL", "RIGHT SQUARE BRACKET WITH QUILL", "DOUBLE QUESTION MARK",
       "QUESTION EXCLAMATION MARK", "EXCLAMATION QUESTION MARK", "TIRONIAN SIGN ET",
       "REVERSED PILCROW SIGN", "BLACK LEFTWARDS BULLET", "BLACK RIGHTWARDS BULLET",
       "LOW ASTERISK", "REVERSED SEMICOLON", "CLOSE UP", "TWO ASTERISKS ALIGNED VERTICALLY",
       "COMMERCIAL MINUS SIGN", "SWUNG DASH", "INVERTED UNDERTIE", "FLOWER PUNCTUATION MARK",
       "THREE DOT PUNCTUATION", "QUADRUPLE PRIME", "FOUR DOT PUNCTUATION", "FIVE DOT PUNCTUATION",
       "TWO DOT PUNCTUATION", "FOUR DOT MARK", "DOTTED CROSS", "TRICOLON", "VERTICAL FOUR DOTS",
       "MEDIUM MATHEMATICAL SPACE", "WORD JOINER", "FUNCTION APPLICATION", "INVISIBLE TIMES",
       "INVISIBLE SEPARATOR", "INVISIBLE PLUS", "", "LEFT-TO-RIGHT ISOLATE",
       "RIGHT-TO-LEFT ISOLATE", "FIRST STRONG ISOLATE", "POP DIRECTIONAL ISOLATE",
       "INHIBIT SYMMETRIC SWAPPING", "ACTIVATE SYMMETRIC SWAPPING", "INHIBIT ARABIC FORM SHAPING",
       "ACTIVATE ARABIC FORM SHAPING", "NATIONAL DIGIT SHAPES", "NOMINAL DIGIT SHAPES"]⟩,
    ⟨0x2070, 1, "SUPERSCRIPT ",
      ["ZERO", "LATIN SMALL LETTER I", "", "", "FOUR", "FIVE", "SIX", "SEVEN", "EIGHT", "NINE",
       "PLUS SIGN", "MINUS", "EQUALS SIGN", "LEFT PARENTHESIS", "RIGHT PARENTHESIS",
       "LATIN SMALL LETTER N"]⟩,
    ⟨0x2080, 1, "SUBSCRIPT ",
      ["ZERO", "ONE", "TWO", "THREE", "FOUR", "FIVE", "SIX", "SEVEN", "EIGHT", "NINE", "PLUS SIGN",
       "MINUS", "EQUALS SIGN", "LEFT PARENTHESIS", "RIGHT PARENTHESIS"]⟩,
    ⟨0x2090, 1, "LATIN SUBSCRIPT SMALL LETTER ",
      ["A", "E", "O", "X", "SCHWA", "H", "K", "L", "M", "N", "P", "S", "T"]⟩,
    ⟨0x20A0, 1, "",
      ["EURO-CURRENCY SIGN", "COLON SIGN", "CRUZEIRO SIGN", "FRENCH FRANC SIGN", "LIRA SIGN",
       "MILL SIGN", "NAIRA SIGN", "PESETA SIGN", "RUPEE SIGN", "WON SIGN", "NEW SHEQEL SIGN",
       "DONG SIGN", "EURO SIGN", "KIP SIGN", "TUGRIK SIGN", "DRACHMA SIGN", "GERMAN PENNY SIGN",
       "PESO SIGN", "GUARANI SIGN", "AUSTRAL SIGN", "HRYVNIA SIGN", "CEDI SIGN",
       "LIVRE TOURNOIS SIGN", "SPESMILO SIGN", "TENGE SIGN", "INDIAN RUPEE SIGN",
       "TURKISH LIRA SIGN", "NORDIC MARK SIGN", "MANAT SIGN", "RUBLE SIGN", "LARI SIGN",
       "BITCOIN SIGN", "SOM SIGN"]⟩,
    ⟨0x20D0, 1, "COMBINING ",
      ["LEFT HARPOON ABOVE", "RIGHT HARPOON ABOVE", "LONG VERTICAL LINE OVERLAY",
       "SHORT VERTICAL LINE OVERLAY", "ANTICLOCKWISE ARROW ABOVE", "CLOCKWISE ARROW ABOVE",
       "LEFT ARROW ABOVE", "RIGHT ARROW ABOVE", "RING OVERLAY", "CLOCKWISE RING OVERLAY",
       "ANTICLOCKWISE RING OVERLAY", "THREE DOTS ABOVE", "FOUR DOTS ABOVE", "ENCLOSING CIRCLE",
       "ENCLOSING SQUARE", "ENCLOSING DIAMOND", "ENCLOSING CIRCLE BACKSLASH",
       "LEFT RIGHT ARROW ABOVE", "ENCLOSING SCREEN", "ENCLOSING KEYCAP",
       "ENCLOSING UPWARD POINTING TRIANGLE", "REVERSE SOLIDUS OVERLAY",
       "DOUBLE VERTICAL STROKE OVERLAY", "ANNUITY SYMBOL", "TRIPLE UNDERDOT", "WIDE BRIDGE ABOVE",
       "LEFTWARDS ARROW OVERLAY", "LONG DOUBLE SOLIDUS OVERLAY",
       "RIGHTWARDS HARPOON WITH BARB DOWNWARDS", "LEFTWARDS HARPOON WITH BARB DOWNWARDS",
       "LEFT ARROW BELOW", "RIGHT ARROW BELOW", "ASTERISK ABOVE"]⟩,
    ⟨0x2100, 1, "",
      ["ACCOUNT OF", "ADDRESSED TO THE SUBJECT", "DOUBLE-STRUCK CAPITAL C", "DEGREE CELSIUS",
       "CENTRE LINE SYMBOL", "CARE OF", "CADA UNA", "EULER CONSTANT", "SCRUPLE",
       "DEGREE FAHRENHEIT", "SCRIPT SMALL G", "SCRIPT CAPITAL H", "BLACK-LETTER CAPITAL H",
       "DOUBLE-STRUCK CAPITAL H", "PLANCK CONSTANT", "PLANCK CONSTANT OVER TWO PI",
       "SCRIPT CAPITAL I", "BLACK-LETTER CAPITAL I", "SCRIPT CAPITAL L", "SCRIPT SMALL L",
       "L B BAR SYMBOL", "DOUBLE-STRUCK CAPITAL N", "NUMERO SIGN", "", "SCRIPT CAPITAL P",
       "DOUBLE-STRUCK CAPITAL P", "DOUBLE-STRUCK CAPITAL Q", "SCRIPT CAPITAL R",
       "BLACK-LETTER CAPITAL R", "DOUBLE-STRUCK CAPITAL R", "PRESCRIPTION TAKE", "RESPONSE",
       "SERVICE MARK", "TELEPHONE SIGN", "TRADE MARK SIGN", "VERSICLE", "DOUBLE-STRUCK CAPITAL Z",
       "OUNCE SIGN", "OHM SIGN", "INVERTED OHM SIGN", "BLACK-LETTER CAPITAL Z",
       "TURNED GREEK SMALL LETTER IOTA", "KELVIN SIGN", "ANGSTROM SIGN", "SCRIPT CAPITAL B",
       "BLACK-LETTER CAPITAL C", "ESTIMATED SYMBOL", "SCRIPT SMALL E", "SCRIPT CAPITAL E",
       "SCRIPT CAPITAL F", "TURNED CAPITAL F", "SCRIPT CAPITAL M", "SCRIPT SMALL O", "ALEF SYMBOL",
       "BET SYMBOL", "GIMEL SYMBOL", "DALET SYMBOL", "INFORMATION SOURCE", "ROTATED CAPITAL Q",
       "FACSIMILE SIGN"]⟩,
    ⟨0x213C, 1, "DOUBLE-STRUCK ",
      ["SMALL PI", "SMALL GAMMA", "CAPITAL GAMMA", "CAPITAL PI", "N-ARY SUMMATION"]⟩,
    ⟨0x2141, 1, "TURNED SANS-SERIF CAPITAL ", ["G", "L"]⟩,
    ⟨0x2143, 1, "", ["REVERSED SANS-SERIF CAPITAL L", "TURNED SANS-SERIF CAPITAL Y"]⟩,
    ⟨0x2145, 1, "DOUBLE-STRUCK ITALIC ", ["CAPITAL D", "SMALL D", "SMALL E", "SMALL I", "SMALL J"]⟩,
    ⟨0x214A, 1, "",
      ["PROPERTY LINE", "TURNED AMPERSAND", "PER SIGN", "AKTIESELSKAB", "TURNED SMALL F",
       "SYMBOL FOR SAMARITAN SOURCE"]⟩,
    ⟨0x2150, 1, "VULGAR FRACTION ",
      ["ONE SEVENTH", "ONE NINTH", "ONE TENTH", "ONE THIRD", "TWO THIRDS", "ONE FIFTH",
       "TWO FIFTHS", "THREE FIFTHS", "FOUR FIFTHS", "ONE SIXTH", "FIVE SIXTHS", "ONE EIGHTH",
       "THREE EIGHTHS", "FIVE EIGHTHS", "SEVEN EIGHTHS"]⟩,
    ⟨0x215F, 1, "FRACTION NUMERATOR ", ["ONE"]⟩,
    ⟨0x2160, 1, "ROMAN NUMERAL ",
      ["ONE", "TWO", "THREE", "FOUR", "FIVE", "SIX", "SEVEN", "EIGHT", "NINE", "TEN", "ELEVEN",
       "TWELVE", "FIFTY", "ONE HUNDRED", "FIVE HUNDRED", "ONE THOUSAND"]⟩,
    ⟨0x2170, 1, "SMALL ROMAN NUMERAL ",
      ["ONE", "TWO", "THREE", "FOUR", "FIVE", "SIX", "SEVEN", "EIGHT", "NINE", "TEN", "ELEVEN",
       "TWELVE", "FIFTY", "ONE HUNDRED", "FIVE HUNDRED", "ONE THOUSAND"]⟩,
    ⟨0x2180, 1, "ROMAN NUMERAL ",
      ["ONE THOUSAND C D", "FIVE THOUSAND", "TEN THOUSAND", "REVERSED ONE HUNDRED"]⟩,
    ⟨0x2184, 1, "",
      ["LATIN SMALL LETTER REVERSED C", "ROMAN NUMERAL SIX LATE FORM",
       "ROMAN NUMERAL FIFTY EARLY FORM", "ROMAN NUMERAL FIFTY THOUSAND",
       "ROMAN NUMERAL ONE HUNDRED THOUSAND", "VULGAR FRACTION ZERO THIRDS", "TURNED DIGIT TWO",
       "TURNED DIGIT THREE", "", "", "", "", "LEFTWARDS ARROW", "UPWARDS ARROW",
       "RIGHTWARDS ARROW", "DOWNWARDS ARROW", "LEFT RIGHT ARROW", "UP DOWN ARROW",
       "NORTH WEST ARROW", "NORTH EAST ARROW", "SOUTH EAST ARROW", "SOUTH WEST ARROW",
       "LEFTWARDS ARROW WITH STROKE", "RIGHTWARDS ARROW WITH STROKE", "LEFTWARDS WAVE ARROW",
       "RIGHTWARDS WAVE ARROW", "LEFTWARDS TWO HEADED ARROW", "UPWARDS TWO HEADED ARROW",
       "RIGHTWARDS TWO HEADED ARROW", "DOWNWARDS TWO HEADED ARROW", "LEFTWARDS ARROW WITH TAIL",
       "RIGHTWARDS ARROW WITH TAIL", "LEFTWARDS ARROW FROM BAR", "UPWARDS ARROW FROM BAR",
       "RIGHTWARDS ARROW FROM BAR", "DOWNWARDS ARROW FROM BAR", "UP DOWN ARROW WITH BASE",
       "LEFTWARDS ARROW WITH HOOK", "RIGHTWARDS ARROW WITH HOOK", "LEFTWARDS ARROW WITH LOOP",
       "RIGHTWARDS ARROW WITH LOOP", "LEFT RIGHT WAVE ARROW", "LEFT RIGHT ARROW WITH STROKE",
       "DOWNWARDS ZIGZAG ARROW", "UPWARDS ARROW WITH TIP LEFTWARDS",
       "UPWARDS ARROW WITH TIP RIGHTWARDS", "DOWNWARDS ARROW WITH TIP LEFTWARDS",
       "DOWNWARDS ARROW WITH TIP RIGHTWARDS", "RIGHTWARDS ARROW WITH CORNER DOWNWARDS",
       "DOWNWARDS ARROW WITH CORNER LEFTWARDS", "ANTICLOCKWISE TOP SEMICIRCLE ARROW",
       "CLOCKWISE TOP SEMICIRCLE ARROW", "NORTH WEST ARROW TO LONG BAR",
       "LEFTWARDS ARROW TO BAR OVER RIGHTWARDS ARROW TO BAR", "ANTICLOCKWISE OPEN CIRCLE ARROW",
       "CLOCKWISE OPEN CIRCLE ARROW", "LEFTWARDS HARPOON WITH BARB UPWARDS",
       "LEFTWARDS HARPOON WITH BARB DOWNWARDS", "UPWARDS HARPOON WITH BARB RIGHTWARDS",
       "UPWARDS HARPOON WITH BARB LEFTWARDS", "RIGHTWARDS HARPOON WITH BARB UPWARDS",
       "RIGHTWARDS HARPOON WITH BARB DOWNWARDS", "DOWNWARDS HARPOON WITH BARB RIGHTWARDS",
       "DOWNWARDS HARPOON WITH BARB LEFTWARDS", "RIGHTWARDS ARROW OVER LEFTWARDS ARROW",
       "UPWARDS ARROW LEFTWARDS OF DOWNWARDS ARROW", "LEFTWARDS ARROW OVER RIGHTWARDS ARROW",
       "LEFTWARDS PAIRED ARROWS", "UPWARDS PAIRED ARROWS", "RIGHTWARDS PAIRED ARROWS",
       "DOWNWARDS PAIRED ARROWS", "LEFTWARDS HARPOON OVER RIGHTWARDS HARPOON",
       "RIGHTWARDS HARPOON OVER LEFTWARDS HARPOON", "LEFTWARDS DOUBLE ARROW WITH STROKE",
       "LEFT RIGHT DOUBLE ARROW WITH STROKE", "RIGHTWARDS DOUBLE ARROW WITH STROKE",
       "LEFTWARDS DOUBLE ARROW", "UPWARDS DOUBLE ARROW", "RIGHTWARDS DOUBLE ARROW",
       "DOWNWARDS DOUBLE ARROW", "LEFT RIGHT DOUBLE ARROW", "UP DOWN DOUBLE ARROW",
       "NORTH WEST DOUBLE ARROW", "NORTH EAST DOUBLE ARROW", "SOUTH EAST DOUBLE ARROW",
       "SOUTH WEST DOUBLE ARROW", "LEFTWARDS TRIPLE ARROW", "RIGHTWARDS TRIPLE ARROW",
       "LEFTWARDS SQUIGGLE ARROW", "RIGHTWARDS SQUIGGLE ARROW", "UPWARDS ARROW WITH DOUBLE STROKE",
       "DOWNWARDS ARROW WITH DOUBLE STROKE", "LEFTWARDS DASHED ARROW", "UPWARDS DASHED ARROW",
       "RIGHTWARDS DASHED ARROW", "DOWNWARDS DASHED ARROW", "LEFTWARDS ARROW TO BAR",
       "RIGHTWARDS ARROW TO BAR", "LEFTWARDS WHITE ARROW", "UPWARDS WHITE ARROW",
       "RIGHTWARDS WHITE ARROW", "DOWNWARDS WHITE ARROW"]⟩,
    ⟨0x21EA, 1, "UPWARDS WHITE ",
      ["ARROW FROM BAR", "ARROW ON PEDESTAL", "ARROW ON PEDESTAL WITH HORIZONTAL BAR",
       "ARROW ON PEDESTAL WITH VERTICAL BAR", "DOUBLE ARROW", "DOUBLE ARROW ON PEDESTAL"]⟩,
    ⟨0x21F0, 1, "",
      ["RIGHTWARDS WHITE ARROW FROM WALL", "NORTH WEST ARROW TO CORNER",
       "SOUTH EAST ARROW TO CORNER", "UP DOWN WHITE ARROW", "RIGHT ARROW WITH SMALL CIRCLE",
       "DOWNWARDS ARROW LEFTWARDS OF UPWARDS ARROW", "THREE RIGHTWARDS ARROWS",
       "LEFTWARDS ARROW WITH VERTICAL STROKE", "RIGHTWARDS ARROW WITH VERTICAL STROKE",
       "LEFT RIGHT ARROW WITH VERTICAL STROKE", "LEFTWARDS ARROW WITH DOUBLE VERTICAL STROKE",
       "RIGHTWARDS ARROW WITH DOUBLE VERTICAL STROKE",
       "LEFT RIGHT ARROW WITH DOUBLE VERTICAL STROKE", "LEFTWARDS OPEN-HEADED ARROW",
       "RIGHTWARDS OPEN-HEADED ARROW", "LEFT RIGHT OPEN-HEADED ARROW", "FOR ALL", "COMPLEMENT",
       "PARTIAL DIFFERENTIAL", "THERE EXISTS", "THERE DOES NOT EXIST", "EMPTY SET", "INCREMENT",
       "NABLA", "ELEMENT OF", "NOT AN ELEMENT OF", "SMALL ELEMENT OF", "CONTAINS AS MEMBER",
       "DOES NOT CONTAIN AS MEMBER", "SMALL CONTAINS AS MEMBER", "END OF PROOF", "N-ARY PRODUCT",
       "N-ARY COPRODUCT", "N-ARY SUMMATION", "MINUS SIGN", "MINUS-OR-PLUS SIGN", "DOT PLUS",
       "DIVISION SLASH", "SET MINUS", "ASTERISK OPERATOR", "RING OPERATOR", "BULLET OPERATOR",
       "SQUARE ROOT", "CUBE ROOT", "FOURTH ROOT", "PROPORTIONAL TO", "INFINITY", "RIGHT ANGLE",
       "ANGLE", "MEASURED ANGLE", "SPHERICAL ANGLE", "DIVIDES", "DOES NOT DIVIDE", "PARALLEL TO",
       "NOT PARALLEL TO", "LOGICAL AND", "LOGICAL OR", "INTERSECTION", "UNION", "INTEGRAL",
       "DOUBLE INTEGRAL", "TRIPLE INTEGRAL", "CONTOUR INTEGRAL", "SURFACE INTEGRAL",
       "VOLUME INTEGRAL", "CLOCKWISE INTEGRAL", "CLOCKWISE CONTOUR INTEGRAL",
       "ANTICLOCKWISE CONTOUR INTEGRAL", "THEREFORE", "BECAUSE", "RATIO", "PROPORTION",
       "DOT MINUS", "EXCESS", "GEOMETRIC PROPORTION", "HOMOTHETIC", "TILDE OPERATOR",
       "REVERSED TILDE", "INVERTED LAZY S", "SINE WAVE", "WREATH PRODUCT", "NOT TILDE",
       "MINUS TILDE", "ASYMPTOTICALLY EQUAL TO", "NOT ASYMPTOTICALLY EQUAL TO",
       "APPROXIMATELY EQUAL TO", "APPROXIMATELY BUT NOT ACTUALLY EQUAL TO",
       "NEITHER APPROXIMATELY NOR ACTUALLY EQUAL TO", "ALMOST EQUAL TO", "NOT ALMOST EQUAL TO",
       "ALMOST EQUAL OR EQUAL TO", "TRIPLE TILDE", "ALL EQUAL TO", "EQUIVALENT TO",
       "GEOMETRICALLY EQUIVALENT TO", "DIFFERENCE BETWEEN", "APPROACHES THE LIMIT",
       "GEOMETRICALLY EQUAL TO", "APPROXIMATELY EQUAL TO OR THE IMAGE OF",
       "IMAGE OF OR APPROXIMATELY EQUAL TO", "COLON EQUALS", "EQUALS COLON", "RING IN EQUAL TO",
       "RING EQUAL TO", "CORRESPONDS TO", "ESTIMATES", "EQUIANGULAR TO", "STAR EQUALS",
       "DELTA EQUAL TO", "EQUAL TO BY DEFINITION", "MEASURED BY", "QUESTIONED EQUAL TO",
       "NOT EQUAL TO", "IDENTICAL TO", "NOT IDENTICAL TO", "STRICTLY EQUIVALENT TO",
       "LESS-THAN OR EQUAL TO", "GREATER-THAN OR EQUAL TO", "LESS-THAN OVER EQUAL TO",
       "GREATER-THAN OVER EQUAL TO", "LESS-THAN BUT NOT EQUAL TO", "GREATER-THAN BUT NOT EQUAL TO",
       "MUCH LESS-THAN", "MUCH GREATER-THAN", "BETWEEN", "NOT EQUIVALENT TO", "NOT LESS-THAN",
       "NOT GREATER-THAN", "NEITHER LESS-THAN NOR EQUAL TO", "NEITHER GREATER-THAN NOR EQUAL TO",
       "LESS-THAN OR EQUIVALENT TO", "GREATER-THAN OR EQUIVALENT TO",
       "NEITHER LESS-THAN NOR EQUIVALENT TO", "NEITHER GREATER-THAN NOR EQUIVALENT TO",
       "LESS-THAN OR GREATER-THAN", "GREATER-THAN OR LESS-THAN",
       "NEITHER LESS-THAN NOR GREATER-THAN", "NEITHER GREATER-THAN NOR LESS-THAN", "PRECEDES",
       "SUCCEEDS", "PRECEDES OR EQUAL TO", "SUCCEEDS OR EQUAL TO", "PRECEDES OR EQUIVALENT TO",
       "SUCCEEDS OR EQUIVALENT TO", "DOES NOT PRECEDE", "DOES NOT SUCCEED", "SUBSET OF",
       "SUPERSET OF", "NOT A SUBSET OF", "NOT A SUPERSET OF", "SUBSET OF OR EQUAL TO",
       "SUPERSET OF OR EQUAL TO", "NEITHER A SUBSET OF NOR EQUAL TO",
       "NEITHER A SUPERSET OF NOR EQUAL TO", "SUBSET OF WITH NOT EQUAL TO",
       "SUPERSET OF WITH NOT EQUAL TO", "MULTISET", "MULTISET MULTIPLICATION", "MULTISET UNION",
       "SQUARE IMAGE OF", "", "SQUARE IMAGE OF OR EQUAL TO", "", "SQUARE CAP", "SQUARE CUP"]⟩,
    ⟨0x2295, 1, "CIRCLED ",
      ["PLUS", "MINUS", "TIMES", "DIVISION SLASH", "DOT OPERATOR", "RING OPERATOR",
       "ASTERISK OPERATOR", "EQUALS", "DASH"]⟩,
    ⟨0x229E, 1, "",
      ["SQUARED PLUS", "SQUARED MINUS", "SQUARED TIMES", "SQUARED DOT OPERATOR", "RIGHT TACK",
       "LEFT TACK", "DOWN TACK", "UP TACK", "ASSERTION", "MODELS", "TRUE", "FORCES",
       "TRIPLE VERTICAL BAR RIGHT TURNSTILE", "DOUBLE VERTICAL BAR DOUBLE RIGHT TURNSTILE",
       "DOES NOT PROVE", "NOT TRUE", "DOES NOT FORCE",
       "NEGATED DOUBLE VERTICAL BAR DOUBLE RIGHT TURNSTILE", "PRECEDES UNDER RELATION",
       "SUCCEEDS UNDER RELATION", "NORMAL SUBGROUP OF", "CONTAINS AS NORMAL SUBGROUP",
       "NORMAL SUBGROUP OF OR EQUAL TO", "CONTAINS AS NORMAL SUBGROUP OR EQUAL TO", "", "IMAGE OF",
       "MULTIMAP", "HERMITIAN CONJUGATE MATRIX", "INTERCALATE", "XOR", "NAND", "NOR",
       "RIGHT ANGLE WITH ARC", "RIGHT TRIANGLE", "N-ARY LOGICAL AND", "N-ARY LOGICAL OR",
       "N-ARY INTERSECTION", "N-ARY UNION", "DIAMOND OPERATOR", "DOT OPERATOR", "STAR OPERATOR",
       "DIVISION TIMES", "BOWTIE", "LEFT NORMAL FACTOR SEMIDIRECT PRODUCT",
       "RIGHT NORMAL FACTOR SEMIDIRECT PRODUCT", "LEFT SEMIDIRECT PRODUCT",
       "RIGHT SEMIDIRECT PRODUCT", "REVERSED TILDE EQUALS", "CURLY LOGICAL OR",
       "CURLY LOGICAL AND", "DOUBLE SUBSET", "DOUBLE SUPERSET", "DOUBLE INTERSECTION",
       "DOUBLE UNION", "PITCHFORK", "EQUAL AND PARALLEL TO", "LESS-THAN WITH DOT",
       "GREATER-THAN WITH DOT", "VERY MUCH LESS-THAN", "VERY MUCH GREATER-THAN",
       "LESS-THAN EQUAL TO OR GREATER-THAN", "GREATER-THAN EQUAL TO OR LESS-THAN",
       "EQUAL TO OR LESS-THAN", "EQUAL TO OR GREATER-THAN", "EQUAL TO OR PRECEDES",
       "EQUAL TO OR SUCCEEDS", "DOES NOT PRECEDE OR EQUAL", "DOES NOT SUCCEED OR EQUAL",
       "NOT SQUARE IMAGE OF OR EQUAL TO", "", "SQUARE IMAGE OF OR NOT EQUAL TO", "",
       "LESS-THAN BUT NOT EQUIVALENT TO", "GREATER-THAN BUT NOT EQUIVALENT TO",
       "PRECEDES BUT NOT EQUIVALENT TO", "SUCCEEDS BUT NOT EQUIVALENT TO",
       "NOT NORMAL SUBGROUP OF", "DOES NOT CONTAIN AS NORMAL SUBGROUP",
       "NOT NORMAL SUBGROUP OF OR EQUAL TO", "DOES NOT CONTAIN AS NORMAL SUBGROUP OR EQUAL",
       "VERTICAL ELLIPSIS", "MIDLINE HORIZONTAL ELLIPSIS", "UP RIGHT DIAGONAL ELLIPSIS",
       "DOWN RIGHT DIAGONAL ELLIPSIS", "ELEMENT OF WITH LONG HORIZONTAL STROKE",
       "ELEMENT OF WITH VERTICAL BAR AT END OF HORIZONTAL STROKE",
       "SMALL ELEMENT OF WITH VERTICAL BAR AT END OF HORIZONTAL STROKE",
       "ELEMENT OF WITH DOT ABOVE", "ELEMENT OF WITH OVERBAR", "SMALL ELEMENT OF WITH OVERBAR",
       "ELEMENT OF WITH UNDERBAR", "ELEMENT OF WITH TWO HORIZONTAL STROKES",
       "CONTAINS WITH LONG HORIZONTAL STROKE",
       "CONTAINS WITH VERTICAL BAR AT END OF HORIZONTAL STROKE",
       "SMALL CONTAINS WITH VERTICAL BAR AT END OF HORIZONTAL STROKE", "CONTAINS WITH OVERBAR",
       "SMALL CONTAINS WITH OVERBAR", "Z NOTATION BAG MEMBERSHIP", "DIAMETER SIGN",
       "ELECTRIC ARROW", "HOUSE", "UP ARROWHEAD", "DOWN ARROWHEAD", "PROJECTIVE", "PERSPECTIVE",
       "WAVY LINE", "LEFT CEILING", "RIGHT CEILING", "LEFT FLOOR", "RIGHT FLOOR",
       "BOTTOM RIGHT CROP", "BOTTOM LEFT CROP", "TOP RIGHT CROP", "TOP LEFT CROP",
       "REVERSED NOT SIGN", "SQUARE LOZENGE", "ARC", "SEGMENT", "SECTOR", "TELEPHONE RECORDER",
       "POSITION INDICATOR", "VIEWDATA SQUARE", "PLACE OF INTEREST SIGN", "TURNED NOT SIGN",
       "WATCH", "HOURGLASS", "TOP LEFT CORNER", "TOP RIGHT CORNER", "BOTTOM LEFT CORNER",
       "BOTTOM RIGHT CORNER", "TOP HALF INTEGRAL", "BOTTOM HALF INTEGRAL", "FROWN", "SMILE",
       "UP ARROWHEAD BETWEEN TWO HORIZONTAL BARS", "OPTION KEY", "ERASE TO THE RIGHT",
       "X IN A RECTANGLE BOX", "KEYBOARD", "LEFT-POINTING ANGLE BRACKET",
       "RIGHT-POINTING ANGLE BRACKET", "ERASE TO THE LEFT", "BENZENE RING", "CYLINDRICITY",
       "ALL AROUND-PROFILE", "SYMMETRY", "TOTAL RUNOUT", "DIMENSION ORIGIN", "CONICAL TAPER",
       "SLOPE", "COUNTERBORE", "COUNTERSINK"]⟩,
    ⟨0x2336, 1, "APL FUNCTIONAL SYMBOL ",
      ["I-BEAM", "SQUISH QUAD", "QUAD EQUAL", "QUAD DIVIDE", "QUAD DIAMOND", "QUAD JOT",
       "QUAD CIRCLE", "CIRCLE STILE", "CIRCLE JOT", "SLASH BAR", "BACKSLASH BAR", "QUAD SLASH",
       "QUAD BACKSLASH", "QUAD LESS-THAN", "QUAD GREATER-THAN", "LEFTWARDS VANE",
       "RIGHTWARDS VANE", "QUAD LEFTWARDS ARROW", "QUAD RIGHTWARDS ARROW", "CIRCLE BACKSLASH",
       "DOWN TACK UNDERBAR", "DELTA STILE", "QUAD DOWN CARET", "QUAD DELTA", "DOWN TACK JOT",
       "UPWARDS VANE", "QUAD UPWARDS ARROW", "UP TACK OVERBAR", "DEL STILE", "QUAD UP CARET",
       "QUAD DEL", "UP TACK JOT", "DOWNWARDS VANE", "QUAD DOWNWARDS ARROW", "QUOTE UNDERBAR",
       "DELTA UNDERBAR", "DIAMOND UNDERBAR", "JOT UNDERBAR", "CIRCLE UNDERBAR", "UP SHOE JOT",
       "QUOTE QUAD", "CIRCLE STAR", "QUAD COLON", "UP TACK DIAERESIS", "DEL DIAERESIS",
       "STAR DIAERESIS", "JOT DIAERESIS", "CIRCLE DIAERESIS", "DOWN SHOE STILE", "LEFT SHOE STILE",
       "TILDE DIAERESIS", "GREATER-THAN DIAERESIS", "COMMA BAR", "DEL TILDE", "ZILDE",
       "STILE TILDE", "SEMICOLON UNDERBAR", "QUAD NOT EQUAL", "QUAD QUESTION", "DOWN CARET TILDE",
       "UP CARET TILDE", "IOTA", "RHO", "OMEGA", "ALPHA UNDERBAR", "EPSILON UNDERBAR",
       "IOTA UNDERBAR", "OMEGA UNDERBAR", "ALPHA"]⟩,
    ⟨0x237B, 1, "",
      ["NOT CHECK MARK", "RIGHT ANGLE WITH DOWNWARDS ZIGZAG ARROW", "SHOULDERED OPEN BOX",
       "BELL SYMBOL", "VERTICAL LINE WITH MIDDLE DOT", "INSERTION SYMBOL",
       "CONTINUOUS UNDERLINE SYMBOL", "DISCONTINUOUS UNDERLINE SYMBOL", "EMPHASIS SYMBOL",
       "COMPOSITION SYMBOL", "WHITE SQUARE WITH CENTRE VERTICAL LINE", "ENTER SYMBOL",
       "ALTERNATIVE KEY SYMBOL", "HELM SYMBOL", "CIRCLED HORIZONTAL BAR WITH NOTCH",
       "CIRCLED TRIANGLE DOWN", "BROKEN CIRCLE WITH NORTHWEST ARROW", "UNDO SYMBOL",
       "MONOSTABLE SYMBOL", "HYSTERESIS SYMBOL", "OPEN-CIRCUIT-OUTPUT H-TYPE SYMBOL",
       "OPEN-CIRCUIT-OUTPUT L-TYPE SYMBOL", "PASSIVE-PULL-DOWN-OUTPUT SYMBOL",
       "PASSIVE-PULL-UP-OUTPUT SYMBOL", "DIRECT CURRENT SYMBOL FORM TWO",
       "SOFTWARE-FUNCTION SYMBOL", "APL FUNCTIONAL SYMBOL QUAD", "DECIMAL SEPARATOR KEY SYMBOL",
       "PREVIOUS PAGE", "NEXT PAGE", "PRINT SCREEN SYMBOL", "CLEAR SCREEN SYMBOL"]⟩,
    ⟨0x239B, 1, "LEFT PARENTHESIS ", ["UPPER HOOK", "EXTENSION", "LOWER HOOK"]⟩,
    ⟨0x239E, 1, "RIGHT PARENTHESIS ", ["UPPER HOOK", "EXTENSION", "LOWER HOOK"]⟩,
    ⟨0x23A1, 1, "LEFT SQUARE BRACKET ", ["UPPER CORNER", "EXTENSION", "LOWER CORNER"]⟩,
    ⟨0x23A4, 1, "RIGHT SQUARE BRACKET ", ["UPPER CORNER", "EXTENSION", "LOWER CORNER"]⟩,
    ⟨0x23A7, 1, "LEFT CURLY BRACKET ", ["UPPER HOOK", "MIDDLE PIECE", "LOWER HOOK"]⟩,
    ⟨0x23AA, 1, "",
      ["CURLY BRACKET EXTENSION", "RIGHT CURLY BRACKET UPPER HOOK",
       "RIGHT CURLY BRACKET MIDDLE PIECE", "RIGHT CURLY BRACKET LOWER HOOK", "INTEGRAL EXTENSION",
       "HORIZONTAL LINE EXTENSION", "UPPER LEFT OR LOWER RIGHT CURLY BRACKET SECTION",
       "UPPER RIGHT OR LOWER LEFT CURLY BRACKET SECTION", "SUMMATION TOP", "SUMMATION BOTTOM",
       "TOP SQUARE BRACKET", "BOTTOM SQUARE BRACKET",
       "BOTTOM SQUARE BRACKET OVER TOP SQUARE BRACKET", "RADICAL SYMBOL BOTTOM",
       "LEFT VERTICAL BOX LINE", "RIGHT VERTICAL BOX LINE"]⟩,
    ⟨0x23BA, 1, "HORIZONTAL SCAN ", ["LINE-1", "LINE-3", "LINE-7", "LINE-9"]⟩,
    ⟨0x23BE, 1, "DENTISTRY SYMBOL LIGHT ",
      ["VERTICAL AND TOP RIGHT", "VERTICAL AND BOTTOM RIGHT", "VERTICAL WITH CIRCLE",
       "DOWN AND HORIZONTAL WITH CIRCLE", "UP AND HORIZONTAL WITH CIRCLE",
       "VERTICAL WITH TRIANGLE", "DOWN AND HORIZONTAL WITH TRIANGLE",
       "UP AND HORIZONTAL WITH TRIANGLE", "VERTICAL AND WAVE", "DOWN AND HORIZONTAL WITH WAVE",
       "UP AND HORIZONTAL WITH WAVE", "DOWN AND HORIZONTAL", "UP AND HORIZONTAL",
       "VERTICAL AND TOP LEFT", "VERTICAL AND BOTTOM LEFT"]⟩,
    ⟨0x23CD, 1, "", ["SQUARE FOOT", "RETURN SYMBOL", "EJECT SYMBOL", "VERTICAL LINE EXTENSION"]⟩,
    ⟨0x23D1, 1, "METRICAL ",
      ["BREVE", "LONG OVER SHORT", "SHORT OVER LONG", "LONG OVER TWO SHORTS",
       "TWO SHORTS OVER LONG", "TWO SHORTS JOINED", "TRISEME", "TETRASEME", "PENTASEME"]⟩,
    ⟨0x23DA, 1, "",
      ["EARTH GROUND", "FUSE", "TOP PARENTHESIS", "BOTTOM PARENTHESIS", "TOP CURLY BRACKET",
       "BOTTOM CURLY BRACKET", "TOP TORTOISE SHELL BRACKET", "BOTTOM TORTOISE SHELL BRACKET",
       "WHITE TRAPEZIUM", "BENZENE RING WITH CIRCLE", "STRAIGHTNESS", "FLATNESS", "AC CURRENT",
       "ELECTRICAL INTERSECTION", "DECIMAL EXPONENT SYMBOL",
       "BLACK RIGHT-POINTING DOUBLE TRIANGLE", "BLACK LEFT-POINTING DOUBLE TRIANGLE",
       "BLACK UP-POINTING DOUBLE TRIANGLE", "BLACK DOWN-POINTING DOUBLE TRIANGLE",
       "BLACK RIGHT-POINTING DOUBLE TRIANGLE WITH VERTICAL BAR",
       "BLACK LEFT-POINTING DOUBLE TRIANGLE WITH VERTICAL BAR",
       "BLACK RIGHT-POINTING TRIANGLE WITH DOUBLE VERTICAL BAR", "ALARM CLOCK", "STOPWATCH",
       "TIMER CLOCK", "HOURGLASS WITH FLOWING SAND", "BLACK MEDIUM LEFT-POINTING TRIANGLE",
       "BLACK MEDIUM RIGHT-POINTING TRIANGLE", "BLACK MEDIUM UP-POINTING TRIANGLE",
       "BLACK MEDIUM DOWN-POINTING TRIANGLE", "DOUBLE VERTICAL BAR", "BLACK SQUARE FOR STOP",
       "BLACK CIRCLE FOR RECORD", "POWER SYMBOL", "POWER ON-OFF SYMBOL", "POWER ON SYMBOL",
       "POWER SLEEP SYMBOL", "OBSERVER EYE SYMBOL"]⟩,
    ⟨0x2460, 1, "CIRCLED DIGIT ",
      ["ONE", "TWO", "THREE", "FOUR", "FIVE", "SIX", "SEVEN", "EIGHT", "NINE"]⟩,
    ⟨0x2469, 1, "CIRCLED NUMBER ",
      ["TEN", "ELEVEN", "TWELVE", "THIRTEEN", "FOURTEEN", "FIFTEEN", "SIXTEEN", "SEVENTEEN",
       "EIGHTEEN", "NINETEEN", "TWENTY"]⟩,
    ⟨0x2474, 1, "PARENTHESIZED DIGIT ",
      ["ONE", "TWO", "THREE", "FOUR", "FIVE", "SIX", "SEVEN", "EIGHT", "NINE"]⟩,
    ⟨0x247D, 1, "PARENTHESIZED NUMBER ",
      ["TEN", "ELEVEN", "TWELVE", "THIRTEEN", "FOURTEEN", "FIFTEEN", "SIXTEEN", "SEVENTEEN",
       "EIGHTEEN", "NINETEEN", "TWENTY"]⟩,
    ⟨0x2488, 1, "DIGIT ",
      ["ONE FULL STOP", "TWO FULL STOP", "THREE FULL STOP", "FOUR FULL STOP", "FIVE FULL STOP",
       "SIX FULL STOP", "SEVEN FULL STOP", "EIGHT FULL STOP", "NINE FULL STOP"]⟩,
    ⟨0x2491, 1, "NUMBER ",
      ["TEN FULL STOP", "ELEVEN FULL STOP", "TWELVE FULL STOP", "THIRTEEN FULL STOP",
       "FOURTEEN FULL STOP", "FIFTEEN FULL STOP", "SIXTEEN FULL STOP", "SEVENTEEN FULL STOP",
       "EIGHTEEN FULL STOP", "NINETEEN FULL STOP", "TWENTY FULL STOP"]⟩,
    ⟨0x249C, 1, "PARENTHESIZED LATIN SMALL LETTER ",
      ["A", "B", "C", "D", "E", "F", "G", "H", "I", "J", "K", "L", "M", "N", "O", "P", "Q", "R",
       "S", "T", "U", "V", "W", "X", "Y", "Z"]⟩,
    ⟨0x24B6, 1, "CIRCLED LATIN CAPITAL LETTER ",
      ["A", "B", "C", "D", "E", "F", "G", "H", "I", "J", "K", "L", "M", "N", "O", "P", "Q", "R",
       "S", "T", "U", "V", "W", "X", "Y", "Z"]⟩,
    ⟨0x24D0, 1, "CIRCLED LATIN SMALL LETTER ",
      ["A", "B", "C", "D", "E", "F", "G", "H", "I", "J", "K", "L", "M", "N", "O", "P", "Q", "R",
       "S", "T", "U", "V", "W", "X", "Y", "Z"]⟩,
    ⟨0x24EA, 1, "CIRCLED DIGIT ", ["ZERO"]⟩,
    ⟨0x24EB, 1, "NEGATIVE CIRCLED NUMBER ",
      ["ELEVEN", "TWELVE", "THIRTEEN", "FOURTEEN", "FIFTEEN", "SIXTEEN", "SEVENTEEN", "EIGHTEEN",
       "NINETEEN", "TWENTY"]⟩,
    ⟨0x24F5, 1, "DOUBLE CIRCLED DIGIT ",
      ["ONE", "TWO", "THREE", "FOUR", "FIVE", "SIX", "SEVEN", "EIGHT", "NINE"]⟩,
    ⟨0x24FE, 1, "", ["DOUBLE CIRCLED NUMBER TEN", "NEGATIVE CIRCLED DIGIT ZERO"]⟩,
    ⟨0x2500, 1, "BOX DRAWINGS ",
      ["LIGHT HORIZONTAL", "HEAVY HORIZONTAL", "LIGHT VERTICAL", "HEAVY VERTICAL",
       "LIGHT TRIPLE DASH HORIZONTAL", "HEAVY TRIPLE DASH HORIZONTAL",
       "LIGHT TRIPLE DASH VERTICAL", "HEAVY TRIPLE DASH VERTICAL",
       "LIGHT QUADRUPLE DASH HORIZONTAL", "HEAVY QUADRUPLE DASH HORIZONTAL",
       "LIGHT QUADRUPLE DASH VERTICAL", "HEAVY QUADRUPLE DASH VERTICAL", "LIGHT DOWN AND RIGHT",
       "DOWN LIGHT AND RIGHT HEAVY", "DOWN HEAVY AND RIGHT LIGHT", "HEAVY DOWN AND RIGHT",
       "LIGHT DOWN AND LEFT", "DOWN LIGHT AND LEFT HEAVY", "DOWN HEAVY AND LEFT LIGHT",
       "HEAVY DOWN AND LEFT", "LIGHT UP AND RIGHT", "UP LIGHT AND RIGHT HEAVY",
       "UP HEAVY AND RIGHT LIGHT", "HEAVY UP AND RIGHT", "LIGHT UP AND LEFT",
       "UP LIGHT AND LEFT HEAVY", "UP HEAVY AND LEFT LIGHT", "HEAVY UP AND LEFT",
       "LIGHT VERTICAL AND RIGHT", "VERTICAL LIGHT AND RIGHT HEAVY",
       "UP HEAVY AND RIGHT DOWN LIGHT", "DOWN HEAVY AND RIGHT UP LIGHT",
       "VERTICAL HEAVY AND RIGHT LIGHT", "DOWN LIGHT AND RIGHT UP HEAVY",
       "UP LIGHT AND RIGHT DOWN HEAVY", "HEAVY VERTICAL AND RIGHT", "LIGHT VERTICAL AND LEFT",
       "VERTICAL LIGHT AND LEFT HEAVY", "UP HEAVY AND LEFT DOWN LIGHT",
       "DOWN HEAVY AND LEFT UP LIGHT", "VERTICAL HEAVY AND LEFT LIGHT",
       "DOWN LIGHT AND LEFT UP HEAVY", "UP LIGHT AND LEFT DOWN HEAVY", "HEAVY VERTICAL AND LEFT",
       "LIGHT DOWN AND HORIZONTAL", "LEFT HEAVY AND RIGHT DOWN LIGHT",
       "RIGHT HEAVY AND LEFT DOWN LIGHT", "DOWN LIGHT AND HORIZONTAL HEAVY",
       "DOWN HEAVY AND HORIZONTAL LIGHT", "RIGHT LIGHT AND LEFT DOWN HEAVY",
       "LEFT LIGHT AND RIGHT DOWN HEAVY", "HEAVY DOWN AND HORIZONTAL", "LIGHT UP AND HORIZONTAL",
       "LEFT HEAVY AND RIGHT UP LIGHT", "RIGHT HEAVY AND LEFT UP LIGHT",
       "UP LIGHT AND HORIZONTAL HEAVY", "UP HEAVY AND HORIZONTAL LIGHT",
       "RIGHT LIGHT AND LEFT UP HEAVY", "LEFT LIGHT AND RIGHT UP HEAVY", "HEAVY UP AND HORIZONTAL",
       "LIGHT VERTICAL AND HORIZONTAL", "LEFT HEAVY AND RIGHT VERTICAL LIGHT",
       "RIGHT HEAVY AND LEFT VERTICAL LIGHT", "VERTICAL LIGHT AND HORIZONTAL HEAVY",
       "UP HEAVY AND DOWN HORIZONTAL LIGHT", "DOWN HEAVY AND UP HORIZONTAL LIGHT",
       "VERTICAL HEAVY AND HORIZONTAL LIGHT", "LEFT UP HEAVY AND RIGHT DOWN LIGHT",
       "RIGHT UP HEAVY AND LEFT DOWN LIGHT", "LEFT DOWN HEAVY AND RIGHT UP LIGHT",
       "RIGHT DOWN HEAVY AND LEFT UP LIGHT", "DOWN LIGHT AND UP HORIZONTAL HEAVY",
       "UP LIGHT AND DOWN HORIZONTAL HEAVY", "RIGHT LIGHT AND LEFT VERTICAL HEAVY",
       "LEFT LIGHT AND RIGHT VERTICAL HEAVY", "HEAVY VERTICAL AND HORIZONTAL",
       "LIGHT DOUBLE DASH HORIZONTAL", "HEAVY DOUBLE DASH HORIZONTAL",
       "LIGHT DOUBLE DASH VERTICAL", "HEAVY DOUBLE DASH VERTICAL", "DOUBLE HORIZONTAL",
       "DOUBLE VERTICAL", "DOWN SINGLE AND RIGHT DOUBLE", "DOWN DOUBLE AND RIGHT SINGLE",
       "DOUBLE DOWN AND RIGHT", "DOWN SINGLE AND LEFT DOUBLE", "DOWN DOUBLE AND LEFT SINGLE",
       "DOUBLE DOWN AND LEFT", "UP SINGLE AND RIGHT DOUBLE", "UP DOUBLE AND RIGHT SINGLE",
       "DOUBLE UP AND RIGHT", "UP SINGLE AND LEFT DOUBLE", "UP DOUBLE AND LEFT SINGLE",
       "DOUBLE UP AND LEFT", "VERTICAL SINGLE AND RIGHT DOUBLE",
       "VERTICAL DOUBLE AND RIGHT SINGLE", "DOUBLE VERTICAL AND RIGHT",
       "VERTICAL SINGLE AND LEFT DOUBLE", "VERTICAL DOUBLE AND LEFT SINGLE",
       "DOUBLE VERTICAL AND LEFT", "DOWN SINGLE AND HORIZONTAL DOUBLE",
       "DOWN DOUBLE AND HORIZONTAL SINGLE", "DOUBLE DOWN AND HORIZONTAL",
       "UP SINGLE AND HORIZONTAL DOUBLE", "UP DOUBLE AND HORIZONTAL SINGLE",
       "DOUBLE UP AND HORIZONTAL", "VERTICAL SINGLE AND HORIZONTAL DOUBLE",
       "VERTICAL DOUBLE AND HORIZONTAL SINGLE", "DOUBLE VERTICAL AND HORIZONTAL",
       "LIGHT ARC DOWN AND RIGHT", "LIGHT ARC DOWN AND LEFT", "LIGHT ARC UP AND LEFT",
       "LIGHT ARC UP AND RIGHT", "LIGHT DIAGONAL UPPER RIGHT TO LOWER LEFT",
       "LIGHT DIAGONAL UPPER LEFT TO LOWER RIGHT", "LIGHT DIAGONAL CROSS", "LIGHT LEFT",
       "LIGHT UP", "LIGHT RIGHT", "LIGHT DOWN", "HEAVY LEFT", "HEAVY UP", "HEAVY RIGHT",
       "HEAVY DOWN", "LIGHT LEFT AND HEAVY RIGHT", "LIGHT UP AND HEAVY DOWN",
       "HEAVY LEFT AND LIGHT RIGHT", "HEAVY UP AND LIGHT DOWN"]⟩,
    ⟨0x2580, 1, "",
      ["UPPER HALF BLOCK", "LOWER ONE EIGHTH BLOCK", "LOWER ONE QUARTER BLOCK",
       "LOWER THREE EIGHTHS BLOCK", "LOWER HALF BLOCK", "LOWER FIVE EIGHTHS BLOCK",
       "LOWER THREE QUARTERS BLOCK", "LOWER SEVEN EIGHTHS BLOCK", "FULL BLOCK",
       "LEFT SEVEN EIGHTHS BLOCK", "LEFT THREE QUARTERS BLOCK", "LEFT FIVE EIGHTHS BLOCK",
       "LEFT HALF BLOCK", "LEFT THREE EIGHTHS BLOCK", "LEFT ONE QUARTER BLOCK",
       "LEFT ONE EIGHTH BLOCK", "RIGHT HALF BLOCK", "LIGHT SHADE", "MEDIUM SHADE", "DARK SHADE",
       "UPPER ONE EIGHTH BLOCK", "RIGHT ONE EIGHTH BLOCK", "QUADRANT LOWER LEFT",
       "QUADRANT LOWER RIGHT"]⟩,
    ⟨0x2598, 1, "QUADRANT UPPER ",
      ["LEFT", "LEFT AND LOWER LEFT AND LOWER RIGHT", "LEFT AND LOWER RIGHT",
       "LEFT AND UPPER RIGHT AND LOWER LEFT", "LEFT AND UPPER RIGHT AND LOWER RIGHT", "RIGHT",
       "RIGHT AND LOWER LEFT", "RIGHT AND LOWER LEFT AND LOWER RIGHT"]⟩,
    ⟨0x25A0, 1, "",
      ["BLACK SQUARE", "WHITE SQUARE", "WHITE SQUARE WITH ROUNDED CORNERS",
       "WHITE SQUARE CONTAINING BLACK SMALL SQUARE"]⟩,
    ⟨0x25A4, 1, "SQUARE WITH ",
      ["HORIZONTAL FILL", "VERTICAL FILL", "ORTHOGONAL CROSSHATCH FILL",
       "UPPER LEFT TO LOWER RIGHT FILL", "UPPER RIGHT TO LOWER LEFT FILL",
       "DIAGONAL CROSSHATCH FILL"]⟩,
    ⟨0x25AA, 2, "BLACK ",
      ["SMALL SQUARE", "RECTANGLE", "VERTICAL RECTANGLE", "PARALLELOGRAM", "UP-POINTING TRIANGLE",
       "UP-POINTING SMALL TRIANGLE", "RIGHT-POINTING TRIANGLE", "RIGHT-POINTING SMALL TRIANGLE",
       "RIGHT-POINTING POINTER", "DOWN-POINTING TRIANGLE", "DOWN-POINTING SMALL TRIANGLE",
       "LEFT-POINTING TRIANGLE", "LEFT-POINTING SMALL TRIANGLE", "LEFT-POINTING POINTER",
       "DIAMOND"]⟩,
    ⟨0x25AB, 2, "WHITE ",
      ["SMALL SQUARE", "RECTANGLE", "VERTICAL RECTANGLE", "PARALLELOGRAM", "UP-POINTING TRIANGLE",
       "UP-POINTING SMALL TRIANGLE", "RIGHT-POINTING TRIANGLE", "RIGHT-POINTING SMALL TRIANGLE",
       "RIGHT-POINTING POINTER", "DOWN-POINTING TRIANGLE", "DOWN-POINTING SMALL TRIANGLE",
       "LEFT-POINTING TRIANGLE", "LEFT-POINTING SMALL TRIANGLE", "LEFT-POINTING POINTER",
       "DIAMOND"]⟩,
    ⟨0x25C8, 1, "",
      ["WHITE DIAMOND CONTAINING BLACK SMALL DIAMOND", "FISHEYE", "LOZENGE", "WHITE CIRCLE",
       "DOTTED CIRCLE", "CIRCLE WITH VERTICAL FILL", "BULLSEYE", "BLACK CIRCLE"]⟩,
    ⟨0x25D0, 1, "CIRCLE WITH ",
      ["LEFT HALF BLACK", "RIGHT HALF BLACK", "LOWER HALF BLACK", "UPPER HALF BLACK",
       "UPPER RIGHT QUADRANT BLACK", "ALL BUT UPPER LEFT QUADRANT BLACK"]⟩,
    ⟨0x25D6, 1, "",
      ["LEFT HALF BLACK CIRCLE", "RIGHT HALF BLACK CIRCLE", "INVERSE BULLET",
       "INVERSE WHITE CIRCLE", "UPPER HALF INVERSE WHITE CIRCLE",
       "LOWER HALF INVERSE WHITE CIRCLE", "UPPER LEFT QUADRANT CIRCULAR ARC",
       "UPPER RIGHT QUADRANT CIRCULAR ARC", "LOWER RIGHT QUADRANT CIRCULAR ARC",
       "LOWER LEFT QUADRANT CIRCULAR ARC", "UPPER HALF CIRCLE", "LOWER HALF CIRCLE",
       "BLACK LOWER RIGHT TRIANGLE", "BLACK LOWER LEFT TRIANGLE", "BLACK UPPER LEFT TRIANGLE",
       "BLACK UPPER RIGHT TRIANGLE", "WHITE BULLET", "SQUARE WITH LEFT HALF BLACK",
       "SQUARE WITH RIGHT HALF BLACK", "SQUARE WITH UPPER LEFT DIAGONAL HALF BLACK",
       "SQUARE WITH LOWER RIGHT DIAGONAL HALF BLACK", "WHITE SQUARE WITH VERTICAL BISECTING LINE",
       "WHITE UP-POINTING TRIANGLE WITH DOT", "UP-POINTING TRIANGLE WITH LEFT HALF BLACK",
       "UP-POINTING TRIANGLE WITH RIGHT HALF BLACK", "LARGE CIRCLE"]⟩,
    ⟨0x25F0, 1, "WHITE SQUARE WITH ",
      ["UPPER LEFT QUADRANT", "LOWER LEFT QUADRANT", "LOWER RIGHT QUADRANT",
       "UPPER RIGHT QUADRANT"]⟩,
    ⟨0x25F4, 1, "WHITE CIRCLE WITH ",
      ["UPPER LEFT QUADRANT", "LOWER LEFT QUADRANT", "LOWER RIGHT QUADRANT",
       "UPPER RIGHT QUADRANT"]⟩,
    ⟨0x25F8, 1, "",
      ["UPPER LEFT TRIANGLE", "UPPER RIGHT TRIANGLE", "LOWER LEFT TRIANGLE", "WHITE MEDIUM SQUARE",
       "BLACK MEDIUM SQUARE", "WHITE MEDIUM SMALL SQUARE", "BLACK MEDIUM SMALL SQUARE",
       "LOWER RIGHT TRIANGLE", "BLACK SUN WITH RAYS", "CLOUD", "UMBRELLA", "SNOWMAN", "COMET",
       "BLACK STAR", "WHITE STAR", "LIGHTNING", "THUNDERSTORM", "SUN", "ASCENDING NODE",
       "DESCENDING NODE", "CONJUNCTION", "OPPOSITION", "BLACK TELEPHONE", "WHITE TELEPHONE",
       "BALLOT BOX", "BALLOT BOX WITH CHECK", "BALLOT BOX WITH X", "SALTIRE",
       "UMBRELLA WITH RAIN DROPS", "HOT BEVERAGE", "WHITE SHOGI PIECE", "BLACK SHOGI PIECE",
       "SHAMROCK", "REVERSED ROTATED FLORAL HEART BULLET", "BLACK LEFT POINTING INDEX",
       "BLACK RIGHT POINTING INDEX", "WHITE LEFT POINTING INDEX", "WHITE UP POINTING INDEX",
       "WHITE RIGHT POINTING INDEX", "WHITE DOWN POINTING INDEX", "SKULL AND CROSSBONES",
       "CAUTION SIGN", "RADIOACTIVE SIGN", "BIOHAZARD SIGN", "CADUCEUS", "ANKH", "ORTHODOX CROSS",
       "CHI RHO", "CROSS OF LORRAINE", "CROSS OF JERUSALEM", "STAR AND CRESCENT", "FARSI SYMBOL",
       "ADI SHAKTI", "HAMMER AND SICKLE", "PEACE SYMBOL", "YIN YANG"]⟩,
    ⟨0x2630, 1, "TRIGRAM FOR ",
      ["HEAVEN", "LAKE", "FIRE", "THUNDER", "WIND", "WATER", "MOUNTAIN", "EARTH"]⟩,
    ⟨0x2638, 1, "",
      ["WHEEL OF DHARMA", "WHITE FROWNING FACE", "WHITE SMILING FACE", "BLACK SMILING FACE",
       "WHITE SUN WITH RAYS", "FIRST QUARTER MOON", "LAST QUARTER MOON", "MERCURY", "FEMALE SIGN",
       "EARTH", "MALE SIGN", "JUPITER", "SATURN", "URANUS", "NEPTUNE", "PLUTO", "ARIES", "TAURUS",
       "GEMINI", "CANCER", "LEO", "VIRGO", "LIBRA", "SCORPIUS", "SAGITTARIUS", "CAPRICORN",
       "AQUARIUS", "PISCES"]⟩,
    ⟨0x2654, 1, "WHITE CHESS ", ["KING", "QUEEN", "ROOK", "BISHOP", "KNIGHT", "PAWN"]⟩,
    ⟨0x265A, 1, "BLACK CHESS ", ["KING", "QUEEN", "ROOK", "BISHOP", "KNIGHT", "PAWN"]⟩,
    ⟨0x2660, 1, "",
      ["BLACK SPADE SUIT", "WHITE HEART SUIT", "WHITE DIAMOND SUIT", "BLACK CLUB SUIT",
       "WHITE SPADE SUIT", "BLACK HEART SUIT", "BLACK DIAMOND SUIT", "WHITE CLUB SUIT",
       "HOT SPRINGS", "QUARTER NOTE", "EIGHTH NOTE", "BEAMED EIGHTH NOTES",
       "BEAMED SIXTEENTH NOTES", "MUSIC FLAT SIGN", "MUSIC NATURAL SIGN", "MUSIC SHARP SIGN",
       "WEST SYRIAC CROSS", "EAST SYRIAC CROSS", "UNIVERSAL RECYCLING SYMBOL"]⟩,
    ⟨0x2673, 1, "RECYCLING SYMBOL FOR ",
      ["TYPE-1 PLASTICS", "TYPE-2 PLASTICS", "TYPE-3 PLASTICS", "TYPE-4 PLASTICS",
       "TYPE-5 PLASTICS", "TYPE-6 PLASTICS", "TYPE-7 PLASTICS", "GENERIC MATERIALS"]⟩,
    ⟨0x267B, 1, "",
      ["BLACK UNIVERSAL RECYCLING SYMBOL", "RECYCLED PAPER SYMBOL",
       "PARTIALLY-RECYCLED PAPER SYMBOL", "PERMANENT PAPER SIGN", "WHEELCHAIR SYMBOL",
       "DIE FACE-1", "DIE FACE-2", "DIE FACE-3", "DIE FACE-4", "DIE FACE-5", "DIE FACE-6",
       "WHITE CIRCLE WITH DOT RIGHT", "WHITE CIRCLE WITH TWO DOTS",
       "BLACK CIRCLE WITH WHITE DOT RIGHT", "BLACK CIRCLE WITH TWO WHITE DOTS",
       "MONOGRAM FOR YANG", "MONOGRAM FOR YIN", "DIGRAM FOR GREATER YANG", "DIGRAM FOR LESSER YIN",
       "DIGRAM FOR LESSER YANG", "DIGRAM FOR GREATER YIN", "WHITE FLAG", "BLACK FLAG",
       "HAMMER AND PICK", "ANCHOR", "CROSSED SWORDS", "STAFF OF AESCULAPIUS", "SCALES", "ALEMBIC",
       "FLOWER", "GEAR", "STAFF OF HERMES", "ATOM SYMBOL", "FLEUR-DE-LIS", "OUTLINED WHITE STAR",
       "THREE LINES CONVERGING RIGHT", "THREE LINES CONVERGING LEFT", "WARNING SIGN",
       "HIGH VOLTAGE SIGN", "DOUBLED FEMALE SIGN", "DOUBLED MALE SIGN",
       "INTERLOCKED FEMALE AND MALE SIGN", "MALE AND FEMALE SIGN", "MALE WITH STROKE SIGN",
       "MALE WITH STROKE AND MALE AND FEMALE SIGN", "VERTICAL MALE WITH STROKE SIGN",
       "HORIZONTAL MALE WITH STROKE SIGN", "MEDIUM WHITE CIRCLE", "MEDIUM BLACK CIRCLE",
       "MEDIUM SMALL WHITE CIRCLE", "MARRIAGE SYMBOL", "DIVORCE SYMBOL",
       "UNMARRIED PARTNERSHIP SYMBOL", "COFFIN", "FUNERAL URN", "NEUTER", "CERES", "PALLAS",
       "JUNO", "VESTA", "CHIRON", "BLACK MOON LILITH", "SEXTILE", "SEMISEXTILE", "QUINCUNX",
       "SESQUIQUADRATE", "SOCCER BALL", "BASEBALL", "SQUARED KEY", "WHITE DRAUGHTS MAN",
       "WHITE DRAUGHTS KING", "BLACK DRAUGHTS MAN", "BLACK DRAUGHTS KING", "SNOWMAN WITHOUT SNOW",
       "SUN BEHIND CLOUD", "RAIN", "BLACK SNOWMAN", "THUNDER CLOUD AND RAIN",
       "TURNED WHITE SHOGI PIECE", "TURNED BLACK SHOGI PIECE", "WHITE DIAMOND IN SQUARE",
       "CROSSING LANES", "DISABLED CAR", "OPHIUCHUS", "PICK", "CAR SLIDING",
       "HELMET WITH WHITE CROSS", "CIRCLED CROSSING LANES", "CHAINS", "NO ENTRY",
       "ALTERNATE ONE-WAY LEFT WAY TRAFFIC", "BLACK TWO-WAY LEFT WAY TRAFFIC",
       "WHITE TWO-WAY LEFT WAY TRAFFIC", "BLACK LEFT LANE MERGE", "WHITE LEFT LANE MERGE",
       "DRIVE SLOW SIGN", "HEAVY WHITE DOWN-POINTING TRIANGLE", "LEFT CLOSED ENTRY",
       "SQUARED SALTIRE", "FALLING DIAGONAL IN WHITE CIRCLE IN BLACK SQUARE", "BLACK TRUCK",
       "RESTRICTED LEFT ENTRY-1", "RESTRICTED LEFT ENTRY-2", "ASTRONOMICAL SYMBOL FOR URANUS",
       "HEAVY CIRCLE WITH STROKE AND TWO DOTS ABOVE", "PENTAGRAM",
       "RIGHT-HANDED INTERLACED PENTAGRAM", "LEFT-HANDED INTERLACED PENTAGRAM",
       "INVERTED PENTAGRAM", "BLACK CROSS ON SHIELD", "SHINTO SHRINE", "CHURCH", "CASTLE",
       "HISTORIC SITE", "GEAR WITHOUT HUB", "GEAR WITH HANDLES", "MAP SYMBOL FOR LIGHTHOUSE",
       "MOUNTAIN", "UMBRELLA ON GROUND", "FOUNTAIN", "FLAG IN HOLE", "FERRY", "SAILBOAT",
       "SQUARE FOUR CORNERS", "SKIER", "ICE SKATE", "PERSON WITH BALL", "TENT",
       "JAPANESE BANK SYMBOL", "HEADSTONE GRAVEYARD SYMBOL", "FUEL PUMP", "CUP ON BLACK SQUARE",
       "WHITE FLAG WITH HORIZONTAL MIDDLE BLACK STRIPE", "BLACK SAFETY SCISSORS",
       "UPPER BLADE SCISSORS", "BLACK SCISSORS", "LOWER BLADE SCISSORS", "WHITE SCISSORS",
       "WHITE HEAVY CHECK MARK", "TELEPHONE LOCATION SIGN", "TAPE DRIVE", "AIRPLANE", "ENVELOPE",
       "RAISED FIST", "RAISED HAND", "VICTORY HAND", "WRITING HAND", "LOWER RIGHT PENCIL",
       "PENCIL", "UPPER RIGHT PENCIL", "WHITE NIB", "BLACK NIB", "CHECK MARK", "HEAVY CHECK MARK",
       "MULTIPLICATION X", "HEAVY MULTIPLICATION X", "BALLOT X", "HEAVY BALLOT X",
       "OUTLINED GREEK CROSS", "HEAVY GREEK CROSS", "OPEN CENTRE CROSS", "HEAVY OPEN CENTRE CROSS",
       "LATIN CROSS", "SHADOWED WHITE LATIN CROSS", "OUTLINED LATIN CROSS", "MALTESE CROSS",
       "STAR OF DAVID", "FOUR TEARDROP-SPOKED ASTERISK", "FOUR BALLOON-SPOKED ASTERISK",
       "HEAVY FOUR BALLOON-SPOKED ASTERISK", "FOUR CLUB-SPOKED ASTERISK",
       "BLACK FOUR POINTED STAR", "WHITE FOUR POINTED STAR", "SPARKLES",
       "STRESS OUTLINED WHITE STAR", "CIRCLED WHITE STAR", "OPEN CENTRE BLACK STAR",
       "BLACK CENTRE WHITE STAR", "OUTLINED BLACK STAR", "HEAVY OUTLINED BLACK STAR",
       "PINWHEEL STAR", "SHADOWED WHITE STAR", "HEAVY ASTERISK", "OPEN CENTRE ASTERISK",
       "EIGHT SPOKED ASTERISK", "EIGHT POINTED BLACK STAR", "EIGHT POINTED PINWHEEL STAR",
       "SIX POINTED BLACK STAR", "EIGHT POINTED RECTILINEAR BLACK STAR",
       "HEAVY EIGHT POINTED RECTILINEAR BLACK STAR", "TWELVE POINTED BLACK STAR",
       "SIXTEEN POINTED ASTERISK", "TEARDROP-SPOKED ASTERISK",
       "OPEN CENTRE TEARDROP-SPOKED ASTERISK", "HEAVY TEARDROP-SPOKED ASTERISK",
       "SIX PETALLED BLACK AND WHITE FLORETTE", "BLACK FLORETTE", "WHITE FLORETTE",
       "EIGHT PETALLED OUTLINED BLACK FLORETTE", "CIRCLED OPEN CENTRE EIGHT POINTED STAR",
       "HEAVY TEARDROP-SPOKED PINWHEEL ASTERISK", "SNOWFLAKE", "TIGHT TRIFOLIATE SNOWFLAKE",
       "HEAVY CHEVRON SNOWFLAKE", "SPARKLE", "HEAVY SPARKLE", "BALLOON-SPOKED ASTERISK",
       "EIGHT TEARDROP-SPOKED PROPELLER ASTERISK",
       "HEAVY EIGHT TEARDROP-SPOKED PROPELLER ASTERISK", "CROSS MARK", "SHADOWED WHITE CIRCLE",
       "NEGATIVE SQUARED CROSS MARK", "LOWER RIGHT DROP-SHADOWED WHITE SQUARE",
       "UPPER RIGHT DROP-SHADOWED WHITE SQUARE", "LOWER RIGHT SHADOWED WHITE SQUARE",
       "UPPER RIGHT SHADOWED WHITE SQUARE", "BLACK QUESTION MARK ORNAMENT",
       "WHITE QUESTION MARK ORNAMENT", "WHITE EXCLAMATION MARK ORNAMENT",
       "BLACK DIAMOND MINUS WHITE X", "HEAVY EXCLAMATION MARK SYMBOL", "LIGHT VERTICAL BAR",
       "MEDIUM VERTICAL BAR", "HEAVY VERTICAL BAR",
       "HEAVY SINGLE TURNED COMMA QUOTATION MARK ORNAMENT",
       "HEAVY SINGLE COMMA QUOTATION MARK ORNAMENT",
       "HEAVY DOUBLE TURNED COMMA QUOTATION MARK ORNAMENT",
       "HEAVY DOUBLE COMMA QUOTATION MARK ORNAMENT",
       "HEAVY LOW SINGLE COMMA QUOTATION MARK ORNAMENT",
       "HEAVY LOW DOUBLE COMMA QUOTATION MARK ORNAMENT", "CURVED STEM PARAGRAPH SIGN ORNAMENT",
       "HEAVY EXCLAMATION MARK ORNAMENT", "HEAVY HEART EXCLAMATION MARK ORNAMENT",
       "HEAVY BLACK HEART", "ROTATED HEAVY BLACK HEART BULLET", "FLORAL HEART",
       "ROTATED FLORAL HEART BULLET", "MEDIUM LEFT PARENTHESIS ORNAMENT",
       "MEDIUM RIGHT PARENTHESIS ORNAMENT", "MEDIUM FLATTENED LEFT PARENTHESIS ORNAMENT",
       "MEDIUM FLATTENED RIGHT PARENTHESIS ORNAMENT",
       "MEDIUM LEFT-POINTING ANGLE BRACKET ORNAMENT",
       "MEDIUM RIGHT-POINTING ANGLE BRACKET ORNAMENT",
       "HEAVY LEFT-POINTING ANGLE QUOTATION MARK ORNAMENT",
       "HEAVY RIGHT-POINTING ANGLE QUOTATION MARK ORNAMENT",
       "HEAVY LEFT-POINTING ANGLE BRACKET ORNAMENT", "HEAVY RIGHT-POINTING ANGLE BRACKET ORNAMENT",
       "LIGHT LEFT TORTOISE SHELL BRACKET ORNAMENT", "LIGHT RIGHT TORTOISE SHELL BRACKET ORNAMENT",
       "MEDIUM LEFT CURLY BRACKET ORNAMENT", "MEDIUM RIGHT CURLY BRACKET ORNAMENT"]⟩,
    ⟨0x2776, 1, "DINGBAT NEGATIVE CIRCLED ",
      ["DIGIT ONE", "DIGIT TWO", "DIGIT THREE", "DIGIT FOUR", "DIGIT FIVE", "DIGIT SIX",
       "DIGIT SEVEN", "DIGIT EIGHT", "DIGIT NINE", "NUMBER TEN"]⟩,
    ⟨0x2780, 1, "DINGBAT CIRCLED SANS-SERIF ",
      ["DIGIT ONE", "DIGIT TWO", "DIGIT THREE", "DIGIT FOUR", "DIGIT FIVE", "DIGIT SIX",
       "DIGIT SEVEN", "DIGIT EIGHT", "DIGIT NINE", "NUMBER TEN"]⟩,
    ⟨0x278A, 1, "DINGBAT NEGATIVE CIRCLED SANS-SERIF DIGIT ",
      ["ONE", "TWO", "THREE", "FOUR", "FIVE", "SIX", "SEVEN", "EIGHT", "NINE"]⟩,
    ⟨0x2793, 1, "",
      ["DINGBAT NEGATIVE CIRCLED SANS-SERIF NUMBER TEN", "HEAVY WIDE-HEADED RIGHTWARDS ARROW",
       "HEAVY PLUS SIGN", "HEAVY MINUS SIGN", "HEAVY DIVISION SIGN", "HEAVY SOUTH EAST ARROW",
       "HEAVY RIGHTWARDS ARROW", "HEAVY NORTH EAST ARROW", "DRAFTING POINT RIGHTWARDS ARROW",
       "HEAVY ROUND-TIPPED RIGHTWARDS ARROW", "TRIANGLE-HEADED RIGHTWARDS ARROW",
       "HEAVY TRIANGLE-HEADED RIGHTWARDS ARROW", "DASHED TRIANGLE-HEADED RIGHTWARDS ARROW",
       "HEAVY DASHED TRIANGLE-HEADED RIGHTWARDS ARROW", "BLACK RIGHTWARDS ARROW",
       "THREE-D TOP-LIGHTED RIGHTWARDS ARROWHEAD", "THREE-D BOTTOM-LIGHTED RIGHTWARDS ARROWHEAD",
       "BLACK RIGHTWARDS ARROWHEAD", "HEAVY BLACK CURVED DOWNWARDS AND RIGHTWARDS ARROW",
       "HEAVY BLACK CURVED UPWARDS AND RIGHTWARDS ARROW", "SQUAT BLACK RIGHTWARDS ARROW",
       "HEAVY CONCAVE-POINTED BLACK RIGHTWARDS ARROW", "RIGHT-SHADED WHITE RIGHTWARDS ARROW",
       "LEFT-SHADED WHITE RIGHTWARDS ARROW", "BACK-TILTED SHADOWED WHITE RIGHTWARDS ARROW",
       "FRONT-TILTED SHADOWED WHITE RIGHTWARDS ARROW",
       "HEAVY LOWER RIGHT-SHADOWED WHITE RIGHTWARDS ARROW",
       "HEAVY UPPER RIGHT-SHADOWED WHITE RIGHTWARDS ARROW",
       "NOTCHED LOWER RIGHT-SHADOWED WHITE RIGHTWARDS ARROW", "CURLY LOOP",
       "NOTCHED UPPER RIGHT-SHADOWED WHITE RIGHTWARDS ARROW",
       "CIRCLED HEAVY WHITE RIGHTWARDS ARROW", "WHITE-FEATHERED RIGHTWARDS ARROW",
       "BLACK-FEATHERED SOUTH EAST ARROW", "BLACK-FEATHERED RIGHTWARDS ARROW",
       "BLACK-FEATHERED NORTH EAST ARROW", "HEAVY BLACK-FEATHERED SOUTH EAST ARROW",
       "HEAVY BLACK-FEATHERED RIGHTWARDS ARROW", "HEAVY BLACK-FEATHERED NORTH EAST ARROW",
       "TEARDROP-BARBED RIGHTWARDS ARROW", "HEAVY TEARDROP-SHANKED RIGHTWARDS ARROW",
       "WEDGE-TAILED RIGHTWARDS ARROW", "HEAVY WEDGE-TAILED RIGHTWARDS ARROW",
       "OPEN-OUTLINED RIGHTWARDS ARROW", "DOUBLE CURLY LOOP", "THREE DIMENSIONAL ANGLE",
       "WHITE TRIANGLE CONTAINING SMALL WHITE TRIANGLE", "PERPENDICULAR", "OPEN SUBSET",
       "OPEN SUPERSET", "LEFT S-SHAPED BAG DELIMITER", "RIGHT S-SHAPED BAG DELIMITER",
       "OR WITH DOT INSIDE", "REVERSE SOLIDUS PRECEDING SUBSET", "SUPERSET PRECEDING SOLIDUS",
       "VERTICAL BAR WITH HORIZONTAL STROKE", "MATHEMATICAL RISING DIAGONAL", "LONG DIVISION",
       "MATHEMATICAL FALLING DIAGONAL", "SQUARED LOGICAL AND", "SQUARED LOGICAL OR",
       "WHITE DIAMOND WITH CENTRED DOT", "AND WITH DOT", "ELEMENT OF OPENING UPWARDS",
       "LOWER RIGHT CORNER WITH DOT", "UPPER LEFT CORNER WITH DOT", "LEFT OUTER JOIN",
       "RIGHT OUTER JOIN", "FULL OUTER JOIN", "LARGE UP TACK", "LARGE DOWN TACK",
       "LEFT AND RIGHT DOUBLE TURNSTILE", "LEFT AND RIGHT TACK", "LEFT MULTIMAP",
       "LONG RIGHT TACK", "LONG LEFT TACK", "UP TACK WITH CIRCLE ABOVE",
       "LOZENGE DIVIDED BY HORIZONTAL RULE"]⟩,
    ⟨0x27E1, 1, "WHITE CONCAVE-SIDED ",
      ["DIAMOND", "DIAMOND WITH LEFTWARDS TICK", "DIAMOND WITH RIGHTWARDS TICK"]⟩,
    ⟨0x27E4, 1, "WHITE SQUARE WITH ", ["LEFTWARDS TICK", "RIGHTWARDS TICK"]⟩,
    ⟨0x27E6, 2, "MATHEMATICAL LEFT ",
      ["WHITE SQUARE BRACKET", "ANGLE BRACKET", "DOUBLE ANGLE BRACKET",
       "WHITE TORTOISE SHELL BRACKET", "FLATTENED PARENTHESIS"]⟩,
    ⟨0x27E7, 2, "MATHEMATICAL RIGHT ",
      ["WHITE SQUARE BRACKET", "ANGLE BRACKET", "DOUBLE ANGLE BRACKET",
       "WHITE TORTOISE SHELL BRACKET", "FLATTENED PARENTHESIS"]⟩,
    ⟨0x27F0, 1, "",
      ["UPWARDS QUADRUPLE ARROW", "DOWNWARDS QUADRUPLE ARROW", "ANTICLOCKWISE GAPPED CIRCLE ARROW",
       "CLOCKWISE GAPPED CIRCLE ARROW", "RIGHT ARROW WITH CIRCLED PLUS"]⟩,
    ⟨0x27F5, 1, "LONG ",
      ["LEFTWARDS ARROW", "RIGHTWARDS ARROW", "LEFT RIGHT ARROW", "LEFTWARDS DOUBLE ARROW",
       "RIGHTWARDS DOUBLE ARROW", "LEFT RIGHT DOUBLE ARROW", "LEFTWARDS ARROW FROM BAR",
       "RIGHTWARDS ARROW FROM BAR", "LEFTWARDS DOUBLE ARROW FROM BAR",
       "RIGHTWARDS DOUBLE ARROW FROM BAR", "RIGHTWARDS SQUIGGLE ARROW"]⟩,
    ⟨0x2B00, 1, "",
      ["NORTH EAST WHITE ARROW", "NORTH WEST WHITE ARROW", "SOUTH EAST WHITE ARROW",
       "SOUTH WEST WHITE ARROW", "LEFT RIGHT WHITE ARROW", "LEFTWARDS BLACK ARROW",
       "UPWARDS BLACK ARROW", "DOWNWARDS BLACK ARROW", "NORTH EAST BLACK ARROW",
       "NORTH WEST BLACK ARROW", "SOUTH EAST BLACK ARROW", "SOUTH WEST BLACK ARROW",
       "LEFT RIGHT BLACK ARROW", "UP DOWN BLACK ARROW", "RIGHTWARDS ARROW WITH TIP DOWNWARDS",
       "RIGHTWARDS ARROW WITH TIP UPWARDS", "LEFTWARDS ARROW WITH TIP DOWNWARDS",
       "LEFTWARDS ARROW WITH TIP UPWARDS", "SQUARE WITH TOP HALF BLACK",
       "SQUARE WITH BOTTOM HALF BLACK", "SQUARE WITH UPPER RIGHT DIAGONAL HALF BLACK",
       "SQUARE WITH LOWER LEFT DIAGONAL HALF BLACK", "DIAMOND WITH LEFT HALF BLACK",
       "DIAMOND WITH RIGHT HALF BLACK", "DIAMOND WITH TOP HALF BLACK",
       "DIAMOND WITH BOTTOM HALF BLACK", "DOTTED SQUARE", "BLACK LARGE SQUARE",
       "WHITE LARGE SQUARE", "BLACK VERY SMALL SQUARE", "WHITE VERY SMALL SQUARE",
       "BLACK PENTAGON", "WHITE PENTAGON", "WHITE HEXAGON", "BLACK HEXAGON",
       "HORIZONTAL BLACK HEXAGON", "BLACK LARGE CIRCLE", "BLACK MEDIUM DIAMOND",
       "WHITE MEDIUM DIAMOND", "BLACK MEDIUM LOZENGE", "WHITE MEDIUM LOZENGE",
       "BLACK SMALL DIAMOND", "BLACK SMALL LOZENGE", "WHITE SMALL LOZENGE",
       "BLACK HORIZONTAL ELLIPSE", "WHITE HORIZONTAL ELLIPSE", "BLACK VERTICAL ELLIPSE",
       "WHITE VERTICAL ELLIPSE", "LEFT ARROW WITH SMALL CIRCLE", "THREE LEFTWARDS ARROWS",
       "LEFT ARROW WITH CIRCLED PLUS", "LONG LEFTWARDS SQUIGGLE ARROW"]⟩,
    ⟨0x2B34, 1, "LEFTWARDS TWO-HEADED ",
      ["ARROW WITH VERTICAL STROKE", "ARROW WITH DOUBLE VERTICAL STROKE", "ARROW FROM BAR",
       "TRIPLE DASH ARROW"]⟩,
    ⟨0x2B38, 1, "LEFTWARDS ARROW WITH ",
      ["DOTTED STEM", "TAIL WITH VERTICAL STROKE", "TAIL WITH DOUBLE VERTICAL STROKE"]⟩,
    ⟨0x2B3B, 1, "LEFTWARDS TWO-HEADED ARROW WITH ",
      ["TAIL", "TAIL WITH VERTICAL STROKE", "TAIL WITH DOUBLE VERTICAL STROKE"]⟩,
    ⟨0x2B3E, 1, "",
      ["LEFTWARDS ARROW THROUGH X", "WAVE ARROW POINTING DIRECTLY LEFT",
       "EQUALS SIGN ABOVE LEFTWARDS ARROW", "REVERSE TILDE OPERATOR ABOVE LEFTWARDS ARROW",
       "LEFTWARDS ARROW ABOVE REVERSE ALMOST EQUAL TO", "RIGHTWARDS ARROW THROUGH GREATER-THAN",
       "RIGHTWARDS ARROW THROUGH SUPERSET", "LEFTWARDS QUADRUPLE ARROW",
       "RIGHTWARDS QUADRUPLE ARROW", "REVERSE TILDE OPERATOR ABOVE RIGHTWARDS ARROW",
       "RIGHTWARDS ARROW ABOVE REVERSE ALMOST EQUAL TO", "TILDE OPERATOR ABOVE LEFTWARDS ARROW",
       "LEFTWARDS ARROW ABOVE ALMOST EQUAL TO", "LEFTWARDS ARROW ABOVE REVERSE TILDE OPERATOR",
       "RIGHTWARDS ARROW ABOVE REVERSE TILDE OPERATOR", "DOWNWARDS TRIANGLE-HEADED ZIGZAG ARROW",
       "SHORT SLANTED NORTH ARROW", "SHORT BACKSLANTED SOUTH ARROW", "WHITE MEDIUM STAR",
       "BLACK SMALL STAR", "WHITE SMALL STAR", "BLACK RIGHT-POINTING PENTAGON",
       "WHITE RIGHT-POINTING PENTAGON", "HEAVY LARGE CIRCLE", "HEAVY OVAL WITH OVAL INSIDE",
       "HEAVY CIRCLE WITH CIRCLE INSIDE", "HEAVY CIRCLE", "HEAVY CIRCLED SALTIRE",
       "SLANTED NORTH ARROW WITH HOOKED HEAD", "BACKSLANTED SOUTH ARROW WITH HOOKED TAIL",
       "SLANTED NORTH ARROW WITH HORIZONTAL TAIL", "BACKSLANTED SOUTH ARROW WITH HORIZONTAL TAIL",
       "BENT ARROW POINTING DOWNWARDS THEN NORTH EAST",
       "SHORT BENT ARROW POINTING DOWNWARDS THEN NORTH EAST"]⟩,
    ⟨0xFE00, 1, "VARIATION ",
      ["SELECTOR-1", "SELECTOR-2", "SELECTOR-3", "SELECTOR-4", "SELECTOR-5", "SELECTOR-6",
       "SELECTOR-7", "SELECTOR-8", "SELECTOR-9", "SELECTOR-10", "SELECTOR-11", "SELECTOR-12",
       "SELECTOR-13", "SELECTOR-14", "SELECTOR-15", "SELECTOR-16"]⟩,
    ⟨0x1F1E6, 1, "REGIONAL INDICATOR SYMBOL LETTER ",
      ["A", "B", "C", "D", "E", "F", "G", "H", "I", "J", "K", "L", "M", "N", "O", "P", "Q", "R",
       "S", "T", "U", "V", "W", "X", "Y", "Z"]⟩,
    ⟨0x1F300, 1, "",
      ["CYCLONE", "FOGGY", "CLOSED UMBRELLA", "NIGHT WITH STARS", "SUNRISE OVER MOUNTAINS",
       "SUNRISE", "CITYSCAPE AT DUSK", "SUNSET OVER BUILDINGS", "RAINBOW", "BRIDGE AT NIGHT",
       "WATER WAVE", "VOLCANO", "MILKY WAY", "EARTH GLOBE EUROPE-AFRICA", "EARTH GLOBE AMERICAS",
       "EARTH GLOBE ASIA-AUSTRALIA", "GLOBE WITH MERIDIANS", "NEW MOON SYMBOL",
       "WAXING CRESCENT MOON SYMBOL", "FIRST QUARTER MOON SYMBOL", "WAXING GIBBOUS MOON SYMBOL",
       "FULL MOON SYMBOL", "WANING GIBBOUS MOON SYMBOL", "LAST QUARTER MOON SYMBOL",
       "WANING CRESCENT MOON SYMBOL", "CRESCENT MOON", "NEW MOON WITH FACE",
       "FIRST QUARTER MOON WITH FACE", "LAST QUARTER MOON WITH FACE", "FULL MOON WITH FACE",
       "SUN WITH FACE", "GLOWING STAR", "SHOOTING STAR", "THERMOMETER", "BLACK DROPLET",
       "WHITE SUN", "WHITE SUN WITH SMALL CLOUD", "WHITE SUN BEHIND CLOUD",
       "WHITE SUN BEHIND CLOUD WITH RAIN", "CLOUD WITH RAIN", "CLOUD WITH SNOW",
       "CLOUD WITH LIGHTNING", "CLOUD WITH TORNADO", "FOG", "WIND BLOWING FACE", "HOT DOG", "TACO",
       "BURRITO", "CHESTNUT", "SEEDLING", "EVERGREEN TREE", "DECIDUOUS TREE", "PALM TREE",
       "CACTUS", "HOT PEPPER", "TULIP", "CHERRY BLOSSOM", "ROSE", "HIBISCUS", "SUNFLOWER",
       "BLOSSOM", "EAR OF MAIZE", "EAR OF RICE", "HERB", "FOUR LEAF CLOVER", "MAPLE LEAF",
       "FALLEN LEAF", "LEAF FLUTTERING IN WIND", "MUSHROOM", "TOMATO", "AUBERGINE", "GRAPES",
       "MELON", "WATERMELON", "TANGERINE", "LEMON", "BANANA", "PINEAPPLE", "RED APPLE",
       "GREEN APPLE", "PEAR", "PEACH", "CHERRIES", "STRAWBERRY", "HAMBURGER", "SLICE OF PIZZA",
       "MEAT ON BONE", "POULTRY LEG", "RICE CRACKER", "RICE BALL", "COOKED RICE", "CURRY AND RICE",
       "STEAMING BOWL", "SPAGHETTI", "BREAD", "FRENCH FRIES", "ROASTED SWEET POTATO", "DANGO",
       "ODEN", "SUSHI", "FRIED SHRIMP", "FISH CAKE WITH SWIRL DESIGN", "SOFT ICE CREAM",
       "SHAVED ICE", "ICE CREAM", "DOUGHNUT", "COOKIE", "CHOCOLATE BAR", "CANDY", "LOLLIPOP",
       "CUSTARD", "HONEY POT", "SHORTCAKE", "BENTO BOX", "POT OF FOOD", "COOKING",
       "FORK AND KNIFE", "TEACUP WITHOUT HANDLE", "SAKE BOTTLE AND CUP", "WINE GLASS",
       "COCKTAIL GLASS", "TROPICAL DRINK", "BEER MUG", "CLINKING BEER MUGS", "BABY BOTTLE",
       "FORK AND KNIFE WITH PLATE", "BOTTLE WITH POPPING CORK", "POPCORN", "RIBBON",
       "WRAPPED PRESENT", "BIRTHDAY CAKE", "JACK-O-LANTERN", "CHRISTMAS TREE", "FATHER CHRISTMAS",
       "FIREWORKS", "FIREWORK SPARKLER", "BALLOON", "PARTY POPPER", "CONFETTI BALL",
       "TANABATA TREE", "CROSSED FLAGS", "PINE DECORATION", "JAPANESE DOLLS", "CARP STREAMER",
       "WIND CHIME", "MOON VIEWING CEREMONY", "SCHOOL SATCHEL", "GRADUATION CAP",
       "HEART WITH TIP ON THE LEFT", "BOUQUET OF FLOWERS", "MILITARY MEDAL", "REMINDER RIBBON",
       "MUSICAL KEYBOARD WITH JACKS", "STUDIO MICROPHONE", "LEVEL SLIDER", "CONTROL KNOBS",
       "BEAMED ASCENDING MUSICAL NOTES", "BEAMED DESCENDING MUSICAL NOTES", "FILM FRAMES",
       "ADMISSION TICKETS", "CAROUSEL HORSE", "FERRIS WHEEL", "ROLLER COASTER",
       "FISHING POLE AND FISH", "MICROPHONE", "MOVIE CAMERA", "CINEMA", "HEADPHONE",
       "ARTIST PALETTE", "TOP HAT", "CIRCUS TENT", "TICKET", "CLAPPER BOARD", "PERFORMING ARTS",
       "VIDEO GAME", "DIRECT HIT", "SLOT MACHINE", "BILLIARDS", "GAME DIE", "BOWLING",
       "FLOWER PLAYING CARDS", "MUSICAL NOTE", "MULTIPLE MUSICAL NOTES", "SAXOPHONE", "GUITAR",
       "MUSICAL KEYBOARD", "TRUMPET", "VIOLIN", "MUSICAL SCORE", "RUNNING SHIRT WITH SASH",
       "TENNIS RACQUET AND BALL", "SKI AND SKI BOOT", "BASKETBALL AND HOOP", "CHEQUERED FLAG",
       "SNOWBOARDER", "RUNNER", "SURFER", "SPORTS MEDAL", "TROPHY", "HORSE RACING",
       "AMERICAN FOOTBALL", "RUGBY FOOTBALL", "SWIMMER", "WEIGHT LIFTER", "GOLFER",
       "RACING MOTORCYCLE", "RACING CAR", "CRICKET BAT AND BALL", "VOLLEYBALL",
       "FIELD HOCKEY STICK AND BALL", "ICE HOCKEY STICK AND PUCK", "TABLE TENNIS PADDLE AND BALL",
       "SNOW CAPPED MOUNTAIN", "CAMPING", "BEACH WITH UMBRELLA", "BUILDING CONSTRUCTION",
       "HOUSE BUILDINGS", "CITYSCAPE", "DERELICT HOUSE BUILDING", "CLASSICAL BUILDING", "DESERT",
       "DESERT ISLAND", "NATIONAL PARK", "STADIUM", "HOUSE BUILDING", "HOUSE WITH GARDEN",
       "OFFICE BUILDING", "JAPANESE POST OFFICE", "EUROPEAN POST OFFICE", "HOSPITAL", "BANK",
       "AUTOMATED TELLER MACHINE", "HOTEL", "LOVE HOTEL", "CONVENIENCE STORE", "SCHOOL",
       "DEPARTMENT STORE", "FACTORY", "IZAKAYA LANTERN", "JAPANESE CASTLE", "EUROPEAN CASTLE",
       "WHITE PENNANT", "BLACK PENNANT", "WAVING WHITE FLAG", "WAVING BLACK FLAG", "ROSETTE",
       "BLACK ROSETTE", "LABEL", "BADMINTON RACQUET AND SHUTTLECOCK", "BOW AND ARROW", "AMPHORA"]⟩,
    ⟨0x1F3FB, 1, "EMOJI MODIFIER FITZPATRICK ",
      ["TYPE-1-2", "TYPE-3", "TYPE-4", "TYPE-5", "TYPE-6"]⟩,
    ⟨0x1F400, 1, "",
      ["RAT", "MOUSE", "OX", "WATER BUFFALO", "COW", "TIGER", "LEOPARD", "RABBIT", "CAT", "DRAGON",
       "CROCODILE", "WHALE", "SNAIL", "SNAKE", "HORSE", "RAM", "GOAT", "SHEEP", "MONKEY",
       "ROOSTER", "CHICKEN", "DOG", "PIG", "BOAR", "ELEPHANT", "OCTOPUS", "SPIRAL SHELL", "BUG",
       "ANT", "HONEYBEE", "LADY BEETLE", "FISH", "TROPICAL FISH", "BLOWFISH", "TURTLE",
       "HATCHING CHICK", "BABY CHICK", "FRONT-FACING BABY CHICK", "BIRD", "PENGUIN", "KOALA",
       "POODLE", "DROMEDARY CAMEL", "BACTRIAN CAMEL", "DOLPHIN", "MOUSE FACE", "COW FACE",
       "TIGER FACE", "RABBIT FACE", "CAT FACE", "DRAGON FACE", "SPOUTING WHALE", "HORSE FACE",
       "MONKEY FACE", "DOG FACE", "PIG FACE", "FROG FACE", "HAMSTER FACE", "WOLF FACE",
       "BEAR FACE", "PANDA FACE", "PIG NOSE", "PAW PRINTS", "CHIPMUNK", "EYES", "EYE", "EAR",
       "NOSE", "MOUTH", "TONGUE", "WHITE UP POINTING BACKHAND INDEX",
       "WHITE DOWN POINTING BACKHAND INDEX", "WHITE LEFT POINTING BACKHAND INDEX",
       "WHITE RIGHT POINTING BACKHAND INDEX", "FISTED HAND SIGN", "WAVING HAND SIGN",
       "OK HAND SIGN", "THUMBS UP SIGN", "THUMBS DOWN SIGN", "CLAPPING HANDS SIGN",
       "OPEN HANDS SIGN", "CROWN", "WOMANS HAT", "EYEGLASSES", "NECKTIE", "T-SHIRT", "JEANS",
       "DRESS", "KIMONO", "BIKINI", "WOMANS CLOTHES", "PURSE", "HANDBAG", "POUCH", "MANS SHOE",
       "ATHLETIC SHOE", "HIGH-HEELED SHOE", "WOMANS SANDAL", "WOMANS BOOTS", "FOOTPRINTS",
       "BUST IN SILHOUETTE", "BUSTS IN SILHOUETTE", "BOY", "GIRL", "MAN", "WOMAN", "FAMILY",
       "MAN AND WOMAN HOLDING HANDS", "TWO MEN HOLDING HANDS", "TWO WOMEN HOLDING HANDS",
       "POLICE OFFICER", "WOMAN WITH BUNNY EARS", "BRIDE WITH VEIL", "PERSON WITH BLOND HAIR",
       "MAN WITH GUA PI MAO", "MAN WITH TURBAN", "OLDER MAN", "OLDER WOMAN", "BABY",
       "CONSTRUCTION WORKER", "PRINCESS", "JAPANESE OGRE", "JAPANESE GOBLIN", "GHOST",
       "BABY ANGEL", "EXTRATERRESTRIAL ALIEN", "ALIEN MONSTER", "IMP", "SKULL",
       "INFORMATION DESK PERSON", "GUARDSMAN", "DANCER", "LIPSTICK", "NAIL POLISH", "FACE MASSAGE",
       "HAIRCUT", "BARBER POLE", "SYRINGE", "PILL", "KISS MARK", "LOVE LETTER", "RING",
       "GEM STONE", "KISS", "BOUQUET", "COUPLE WITH HEART", "WEDDING", "BEATING HEART",
       "BROKEN HEART", "TWO HEARTS", "SPARKLING HEART", "GROWING HEART", "HEART WITH ARROW",
       "BLUE HEART", "GREEN HEART", "YELLOW HEART", "PURPLE HEART", "HEART WITH RIBBON",
       "REVOLVING HEARTS", "HEART DECORATION", "DIAMOND SHAPE WITH A DOT INSIDE",
       "ELECTRIC LIGHT BULB", "ANGER SYMBOL", "BOMB", "SLEEPING SYMBOL", "COLLISION SYMBOL",
       "SPLASHING SWEAT SYMBOL", "DROPLET", "DASH SYMBOL", "PILE OF POO", "FLEXED BICEPS",
       "DIZZY SYMBOL", "SPEECH BALLOON", "THOUGHT BALLOON", "WHITE FLOWER",
       "HUNDRED POINTS SYMBOL", "MONEY BAG", "CURRENCY EXCHANGE", "HEAVY DOLLAR SIGN",
       "CREDIT CARD", "BANKNOTE WITH YEN SIGN", "BANKNOTE WITH DOLLAR SIGN",
       "BANKNOTE WITH EURO SIGN", "BANKNOTE WITH POUND SIGN", "MONEY WITH WINGS",
       "CHART WITH UPWARDS TREND AND YEN SIGN", "SEAT", "PERSONAL COMPUTER", "BRIEFCASE",
       "MINIDISC", "FLOPPY DISK", "OPTICAL DISC", "DVD", "FILE FOLDER", "OPEN FILE FOLDER",
       "PAGE WITH CURL", "PAGE FACING UP", "CALENDAR", "TEAR-OFF CALENDAR", "CARD INDEX",
       "CHART WITH UPWARDS TREND", "CHART WITH DOWNWARDS TREND", "BAR CHART", "CLIPBOARD",
       "PUSHPIN", "ROUND PUSHPIN", "PAPERCLIP", "STRAIGHT RULER", "TRIANGULAR RULER",
       "BOOKMARK TABS", "LEDGER", "NOTEBOOK", "NOTEBOOK WITH DECORATIVE COVER", "CLOSED BOOK",
       "OPEN BOOK", "GREEN BOOK", "BLUE BOOK", "ORANGE BOOK", "BOOKS", "NAME BADGE", "SCROLL",
       "MEMO", "TELEPHONE RECEIVER", "PAGER", "FAX MACHINE", "SATELLITE ANTENNA",
       "PUBLIC ADDRESS LOUDSPEAKER", "CHEERING MEGAPHONE", "OUTBOX TRAY", "INBOX TRAY", "PACKAGE",
       "E-MAIL SYMBOL", "INCOMING ENVELOPE", "ENVELOPE WITH DOWNWARDS ARROW ABOVE",
       "CLOSED MAILBOX WITH LOWERED FLAG", "CLOSED MAILBOX WITH RAISED FLAG",
       "OPEN MAILBOX WITH RAISED FLAG", "OPEN MAILBOX WITH LOWERED FLAG", "POSTBOX", "POSTAL HORN",
       "NEWSPAPER", "MOBILE PHONE", "MOBILE PHONE WITH RIGHTWARDS ARROW AT LEFT", "VIBRATION MODE",
       "MOBILE PHONE OFF", "NO MOBILE PHONES", "ANTENNA WITH BARS", "CAMERA", "CAMERA WITH FLASH",
       "VIDEO CAMERA", "TELEVISION", "RADIO", "VIDEOCASSETTE", "FILM PROJECTOR", "PORTABLE STEREO",
       "PRAYER BEADS", "TWISTED RIGHTWARDS ARROWS",
       "CLOCKWISE RIGHTWARDS AND LEFTWARDS OPEN CIRCLE ARROWS",
       "CLOCKWISE RIGHTWARDS AND LEFTWARDS OPEN CIRCLE ARROWS WITH CIRCLED ONE OVERLAY",
       "CLOCKWISE DOWNWARDS AND UPWARDS OPEN CIRCLE ARROWS",
       "ANTICLOCKWISE DOWNWARDS AND UPWARDS OPEN CIRCLE ARROWS", "LOW BRIGHTNESS SYMBOL",
       "HIGH BRIGHTNESS SYMBOL", "SPEAKER WITH CANCELLATION STROKE", "SPEAKER",
       "SPEAKER WITH ONE SOUND WAVE", "SPEAKER WITH THREE SOUND WAVES", "BATTERY", "ELECTRIC PLUG",
       "LEFT-POINTING MAGNIFYING GLASS", "RIGHT-POINTING MAGNIFYING GLASS", "LOCK WITH INK PEN",
       "CLOSED LOCK WITH KEY", "KEY", "LOCK", "OPEN LOCK", "BELL", "BELL WITH CANCELLATION STROKE",
       "BOOKMARK", "LINK SYMBOL", "RADIO BUTTON", "BACK WITH LEFTWARDS ARROW ABOVE",
       "END WITH LEFTWARDS ARROW ABOVE", "ON WITH EXCLAMATION MARK WITH LEFT RIGHT ARROW ABOVE",
       "SOON WITH RIGHTWARDS ARROW ABOVE", "TOP WITH UPWARDS ARROW ABOVE",
       "NO ONE UNDER EIGHTEEN SYMBOL", "KEYCAP TEN"]⟩,
    ⟨0x1F520, 1, "INPUT SYMBOL FOR ",
      ["LATIN CAPITAL LETTERS", "LATIN SMALL LETTERS", "NUMBERS", "SYMBOLS", "LATIN LETTERS"]⟩,
    ⟨0x1F525, 1, "",
      ["FIRE", "ELECTRIC TORCH", "WRENCH", "HAMMER", "NUT AND BOLT", "HOCHO", "PISTOL",
       "MICROSCOPE", "TELESCOPE", "CRYSTAL BALL", "SIX POINTED STAR WITH MIDDLE DOT",
       "JAPANESE SYMBOL FOR BEGINNER", "TRIDENT EMBLEM", "BLACK SQUARE BUTTON",
       "WHITE SQUARE BUTTON", "LARGE RED CIRCLE", "LARGE BLUE CIRCLE", "LARGE ORANGE DIAMOND",
       "LARGE BLUE DIAMOND", "SMALL ORANGE DIAMOND", "SMALL BLUE DIAMOND",
       "UP-POINTING RED TRIANGLE", "DOWN-POINTING RED TRIANGLE", "UP-POINTING SMALL RED TRIANGLE",
       "DOWN-POINTING SMALL RED TRIANGLE", "LOWER RIGHT SHADOWED WHITE CIRCLE",
       "UPPER RIGHT SHADOWED WHITE CIRCLE", "CIRCLED CROSS POMMEE",
       "CROSS POMMEE WITH HALF-CIRCLE BELOW", "CROSS POMMEE",
       "NOTCHED LEFT SEMICIRCLE WITH THREE DOTS", "NOTCHED RIGHT SEMICIRCLE WITH THREE DOTS",
       "SYMBOL FOR MARKS CHAPTER", "WHITE LATIN CROSS", "HEAVY LATIN CROSS", "CELTIC CROSS",
       "OM SYMBOL", "DOVE OF PEACE", "KAABA", "MOSQUE", "SYNAGOGUE", "MENORAH WITH NINE BRANCHES",
       "BOWL OF HYGIEIA"]⟩,
    ⟨0x1F550, 1, "CLOCK FACE ",
      ["ONE OCLOCK", "TWO OCLOCK", "THREE OCLOCK", "FOUR OCLOCK", "FIVE OCLOCK", "SIX OCLOCK",
       "SEVEN OCLOCK", "EIGHT OCLOCK", "NINE OCLOCK", "TEN OCLOCK", "ELEVEN OCLOCK",
       "TWELVE OCLOCK", "ONE-THIRTY", "TWO-THIRTY", "THREE-THIRTY", "FOUR-THIRTY", "FIVE-THIRTY",
       "SIX-THIRTY", "SEVEN-THIRTY", "EIGHT-THIRTY", "NINE-THIRTY", "TEN-THIRTY", "ELEVEN-THIRTY",
       "TWELVE-THIRTY"]⟩,
    ⟨0x1F568, 1, "",
      ["RIGHT SPEAKER", "RIGHT SPEAKER WITH ONE SOUND WAVE",
       "RIGHT SPEAKER WITH THREE SOUND WAVES", "BULLHORN", "BULLHORN WITH SOUND WAVES",
       "RINGING BELL", "BOOK", "CANDLE", "MANTELPIECE CLOCK", "BLACK SKULL AND CROSSBONES",
       "NO PIRACY", "HOLE", "MAN IN BUSINESS SUIT LEVITATING", "SLEUTH OR SPY", "DARK SUNGLASSES",
       "SPIDER", "SPIDER WEB", "JOYSTICK", "MAN DANCING", "LEFT HAND TELEPHONE RECEIVER",
       "TELEPHONE RECEIVER WITH PAGE", "RIGHT HAND TELEPHONE RECEIVER",
       "WHITE TOUCHTONE TELEPHONE", "BLACK TOUCHTONE TELEPHONE", "TELEPHONE ON TOP OF MODEM",
       "CLAMSHELL MOBILE PHONE", "BACK OF ENVELOPE", "STAMPED ENVELOPE", "ENVELOPE WITH LIGHTNING",
       "FLYING ENVELOPE", "PEN OVER STAMPED ENVELOPE", "LINKED PAPERCLIPS", "BLACK PUSHPIN",
       "LOWER LEFT PENCIL", "LOWER LEFT BALLPOINT PEN", "LOWER LEFT FOUNTAIN PEN",
       "LOWER LEFT PAINTBRUSH", "LOWER LEFT CRAYON", "LEFT WRITING HAND", "TURNED OK HAND SIGN",
       "RAISED HAND WITH FINGERS SPLAYED", "REVERSED RAISED HAND WITH FINGERS SPLAYED",
       "REVERSED THUMBS UP SIGN", "REVERSED THUMBS DOWN SIGN", "REVERSED VICTORY HAND",
       "REVERSED HAND WITH MIDDLE FINGER EXTENDED",
       "RAISED HAND WITH PART BETWEEN MIDDLE AND RING FINGERS",
       "WHITE DOWN POINTING LEFT HAND INDEX", "SIDEWAYS WHITE LEFT POINTING INDEX",
       "SIDEWAYS WHITE RIGHT POINTING INDEX", "SIDEWAYS BLACK LEFT POINTING INDEX",
       "SIDEWAYS BLACK RIGHT POINTING INDEX", "BLACK LEFT POINTING BACKHAND INDEX",
       "BLACK RIGHT POINTING BACKHAND INDEX", "SIDEWAYS WHITE UP POINTING INDEX",
       "SIDEWAYS WHITE DOWN POINTING INDEX", "SIDEWAYS BLACK UP POINTING INDEX",
       "SIDEWAYS BLACK DOWN POINTING INDEX", "BLACK UP POINTING BACKHAND INDEX",
       "BLACK DOWN POINTING BACKHAND INDEX", "BLACK HEART", "DESKTOP COMPUTER",
       "KEYBOARD AND MOUSE", "THREE NETWORKED COMPUTERS", "PRINTER", "POCKET CALCULATOR",
       "BLACK HARD SHELL FLOPPY DISK", "WHITE HARD SHELL FLOPPY DISK", "SOFT SHELL FLOPPY DISK",
       "TAPE CARTRIDGE", "WIRED KEYBOARD", "ONE BUTTON MOUSE", "TWO BUTTON MOUSE",
       "THREE BUTTON MOUSE", "TRACKBALL", "OLD PERSONAL COMPUTER", "HARD DISK", "SCREEN",
       "PRINTER ICON", "FAX ICON", "OPTICAL DISC ICON", "DOCUMENT WITH TEXT",
       "DOCUMENT WITH TEXT AND PICTURE", "DOCUMENT WITH PICTURE", "FRAME WITH PICTURE",
       "FRAME WITH TILES", "FRAME WITH AN X", "BLACK FOLDER", "FOLDER", "OPEN FOLDER",
       "CARD INDEX DIVIDERS", "CARD FILE BOX", "FILE CABINET", "EMPTY NOTE", "EMPTY NOTE PAGE",
       "EMPTY NOTE PAD", "NOTE", "NOTE PAGE", "NOTE PAD", "EMPTY DOCUMENT", "EMPTY PAGE",
       "EMPTY PAGES", "DOCUMENT", "PAGE", "PAGES", "WASTEBASKET", "SPIRAL NOTE PAD",
       "SPIRAL CALENDAR PAD", "DESKTOP WINDOW", "MINIMIZE", "MAXIMIZE", "OVERLAP",
       "CLOCKWISE RIGHT AND LEFT SEMICIRCLE ARROWS", "CANCELLATION X", "INCREASE FONT SIZE SYMBOL",
       "DECREASE FONT SIZE SYMBOL", "COMPRESSION", "OLD KEY", "ROLLED-UP NEWSPAPER",
       "PAGE WITH CIRCLED TEXT", "STOCK CHART", "DAGGER KNIFE", "LIPS",
       "SPEAKING HEAD IN SILHOUETTE", "THREE RAYS ABOVE", "THREE RAYS BELOW", "THREE RAYS LEFT",
       "THREE RAYS RIGHT", "LEFT SPEECH BUBBLE", "RIGHT SPEECH BUBBLE", "TWO SPEECH BUBBLES",
       "THREE SPEECH BUBBLES", "LEFT THOUGHT BUBBLE", "RIGHT THOUGHT BUBBLE", "LEFT ANGER BUBBLE",
       "RIGHT ANGER BUBBLE", "MOOD BUBBLE", "LIGHTNING MOOD BUBBLE", "LIGHTNING MOOD",
       "BALLOT BOX WITH BALLOT", "BALLOT SCRIPT X", "BALLOT BOX WITH SCRIPT X",
       "BALLOT BOLD SCRIPT X", "BALLOT BOX WITH BOLD SCRIPT X", "LIGHT CHECK MARK",
       "BALLOT BOX WITH BOLD CHECK", "WORLD MAP", "MOUNT FUJI", "TOKYO TOWER", "STATUE OF LIBERTY",
       "SILHOUETTE OF JAPAN", "MOYAI", "GRINNING FACE", "GRINNING FACE WITH SMILING EYES",
       "FACE WITH TEARS OF JOY"]⟩,
    ⟨0x1F603, 1, "SMILING FACE WITH ",
      ["OPEN MOUTH", "OPEN MOUTH AND SMILING EYES", "OPEN MOUTH AND COLD SWEAT",
       "OPEN MOUTH AND TIGHTLY-CLOSED EYES", "HALO", "HORNS"]⟩,
    ⟨0x1F609, 1, "",
      ["WINKING FACE", "SMILING FACE WITH SMILING EYES", "FACE SAVOURING DELICIOUS FOOD",
       "RELIEVED FACE", "SMILING FACE WITH HEART-SHAPED EYES", "SMILING FACE WITH SUNGLASSES",
       "SMIRKING FACE", "NEUTRAL FACE", "EXPRESSIONLESS FACE", "UNAMUSED FACE",
       "FACE WITH COLD SWEAT", "PENSIVE FACE", "CONFUSED FACE", "CONFOUNDED FACE", "KISSING FACE",
       "FACE THROWING A KISS", "KISSING FACE WITH SMILING EYES", "KISSING FACE WITH CLOSED EYES",
       "FACE WITH STUCK-OUT TONGUE", "FACE WITH STUCK-OUT TONGUE AND WINKING EYE",
       "FACE WITH STUCK-OUT TONGUE AND TIGHTLY-CLOSED EYES", "DISAPPOINTED FACE", "WORRIED FACE",
       "ANGRY FACE", "POUTING FACE", "CRYING FACE", "PERSEVERING FACE",
       "FACE WITH LOOK OF TRIUMPH", "DISAPPOINTED BUT RELIEVED FACE",
       "FROWNING FACE WITH OPEN MOUTH", "ANGUISHED FACE", "FEARFUL FACE", "WEARY FACE",
       "SLEEPY FACE", "TIRED FACE", "GRIMACING FACE", "LOUDLY CRYING FACE", "FACE WITH OPEN MOUTH",
       "HUSHED FACE", "FACE WITH OPEN MOUTH AND COLD SWEAT", "FACE SCREAMING IN FEAR",
       "ASTONISHED FACE", "FLUSHED FACE", "SLEEPING FACE", "DIZZY FACE", "FACE WITHOUT MOUTH",
       "FACE WITH MEDICAL MASK", "GRINNING CAT FACE WITH SMILING EYES",
       "CAT FACE WITH TEARS OF JOY", "SMILING CAT FACE WITH OPEN MOUTH",
       "SMILING CAT FACE WITH HEART-SHAPED EYES", "CAT FACE WITH WRY SMILE",
       "KISSING CAT FACE WITH CLOSED EYES", "POUTING CAT FACE", "CRYING CAT FACE",
       "WEARY CAT FACE", "SLIGHTLY FROWNING FACE", "SLIGHTLY SMILING FACE", "UPSIDE-DOWN FACE",
       "FACE WITH ROLLING EYES", "FACE WITH NO GOOD GESTURE", "FACE WITH OK GESTURE",
       "PERSON BOWING DEEPLY", "SEE-NO-EVIL MONKEY", "HEAR-NO-EVIL MONKEY", "SPEAK-NO-EVIL MONKEY",
       "HAPPY PERSON RAISING ONE HAND", "PERSON RAISING BOTH HANDS IN CELEBRATION",
       "PERSON FROWNING", "PERSON WITH POUTING FACE", "PERSON WITH FOLDED HANDS"]⟩,
    ⟨0x1F680, 1, "",
      ["ROCKET", "HELICOPTER", "STEAM LOCOMOTIVE", "RAILWAY CAR", "HIGH-SPEED TRAIN",
       "HIGH-SPEED TRAIN WITH BULLET NOSE", "TRAIN", "METRO", "LIGHT RAIL", "STATION", "TRAM",
       "TRAM CAR", "BUS", "ONCOMING BUS", "TROLLEYBUS", "BUS STOP", "MINIBUS", "AMBULANCE",
       "FIRE ENGINE", "POLICE CAR", "ONCOMING POLICE CAR", "TAXI", "ONCOMING TAXI", "AUTOMOBILE",
       "ONCOMING AUTOMOBILE", "RECREATIONAL VEHICLE", "DELIVERY TRUCK", "ARTICULATED LORRY",
       "TRACTOR", "MONORAIL", "MOUNTAIN RAILWAY", "SUSPENSION RAILWAY", "MOUNTAIN CABLEWAY",
       "AERIAL TRAMWAY", "SHIP", "ROWBOAT", "SPEEDBOAT", "HORIZONTAL TRAFFIC LIGHT",
       "VERTICAL TRAFFIC LIGHT", "CONSTRUCTION SIGN", "POLICE CARS REVOLVING LIGHT",
       "TRIANGULAR FLAG ON POST", "DOOR", "NO ENTRY SIGN", "SMOKING SYMBOL", "NO SMOKING SYMBOL",
       "PUT LITTER IN ITS PLACE SYMBOL", "DO NOT LITTER SYMBOL", "POTABLE WATER SYMBOL",
       "NON-POTABLE WATER SYMBOL", "BICYCLE", "NO BICYCLES", "BICYCLIST", "MOUNTAIN BICYCLIST",
       "PEDESTRIAN", "NO PEDESTRIANS", "CHILDREN CROSSING", "MENS SYMBOL", "WOMENS SYMBOL",
       "RESTROOM", "BABY SYMBOL", "TOILET", "WATER CLOSET", "SHOWER", "BATH", "BATHTUB",
       "PASSPORT CONTROL", "CUSTOMS", "BAGGAGE CLAIM", "LEFT LUGGAGE",
       "TRIANGLE WITH ROUNDED CORNERS", "PROHIBITED SIGN", "CIRCLED INFORMATION SOURCE",
       "BOYS SYMBOL", "GIRLS SYMBOL", "COUCH AND LAMP", "SLEEPING ACCOMMODATION", "SHOPPING BAGS",
       "BELLHOP BELL", "BED", "PLACE OF WORSHIP", "OCTAGONAL SIGN", "SHOPPING TROLLEY", "STUPA",
       "PAGODA", "HINDU TEMPLE", "HUT", "ELEVATOR", "", "", "", "", "", "PLAYGROUND SLIDE",
       "WHEEL", "RING BUOY", "HAMMER AND WRENCH", "SHIELD", "OIL DRUM", "MOTORWAY",
       "RAILWAY TRACK", "MOTOR BOAT", "UP-POINTING MILITARY AIRPLANE", "UP-POINTING AIRPLANE",
       "UP-POINTING SMALL AIRPLANE", "SMALL AIRPLANE", "NORTHEAST-POINTING AIRPLANE",
       "AIRPLANE DEPARTURE", "AIRPLANE ARRIVING", "", "", "", "SATELLITE", "ONCOMING FIRE ENGINE",
       "DIESEL LOCOMOTIVE", "PASSENGER SHIP", "SCOOTER", "MOTOR SCOOTER", "CANOE", "SLED",
       "FLYING SAUCER", "SKATEBOARD", "AUTO RICKSHAW", "PICKUP TRUCK", "ROLLER SKATE"]⟩,
    ⟨0x1F900, 1, "CIRCLED CROSS ", ["FORMEE WITH FOUR DOTS", "FORMEE WITH TWO DOTS", "FORMEE"]⟩,
    ⟨0x1F903, 1, "LEFT HALF CIRCLE WITH ", ["FOUR DOTS", "THREE DOTS", "TWO DOTS", "DOT"]⟩,
    ⟨0x1F907, 1, "",
      ["LEFT HALF CIRCLE", "DOWNWARD FACING HOOK", "DOWNWARD FACING NOTCHED HOOK",
       "DOWNWARD FACING HOOK WITH DOT", "DOWNWARD FACING NOTCHED HOOK WITH DOT", "PINCHED FINGERS",
       "WHITE HEART", "BROWN HEART", "PINCHING HAND", "ZIPPER-MOUTH FACE", "MONEY-MOUTH FACE",
       "FACE WITH THERMOMETER", "NERD FACE", "THINKING FACE", "FACE WITH HEAD-BANDAGE",
       "ROBOT FACE", "HUGGING FACE", "SIGN OF THE HORNS", "CALL ME HAND", "RAISED BACK OF HAND",
       "LEFT-FACING FIST", "RIGHT-FACING FIST", "HANDSHAKE",
       "HAND WITH INDEX AND MIDDLE FINGERS CROSSED", "I LOVE YOU HAND SIGN",
       "FACE WITH COWBOY HAT", "CLOWN FACE", "NAUSEATED FACE", "ROLLING ON THE FLOOR LAUGHING",
       "DROOLING FACE", "LYING FACE", "FACE PALM", "SNEEZING FACE", "FACE WITH ONE EYEBROW RAISED",
       "GRINNING FACE WITH STAR EYES", "GRINNING FACE WITH ONE LARGE AND ONE SMALL EYE",
       "FACE WITH FINGER COVERING CLOSED LIPS", "SERIOUS FACE WITH SYMBOLS COVERING MOUTH",
       "SMILING FACE WITH SMILING EYES AND HAND COVERING MOUTH", "FACE WITH OPEN MOUTH VOMITING",
       "SHOCKED FACE WITH EXPLODING HEAD", "PREGNANT WOMAN", "BREAST-FEEDING", "PALMS UP TOGETHER",
       "SELFIE", "PRINCE", "MAN IN TUXEDO", "MOTHER CHRISTMAS", "SHRUG", "PERSON DOING CARTWHEEL",
       "JUGGLING", "FENCER", "MODERN PENTATHLON", "WRESTLERS", "WATER POLO", "HANDBALL",
       "DIVING MASK", "WILTED FLOWER", "DRUM WITH DRUMSTICKS", "CLINKING GLASSES", "TUMBLER GLASS",
       "SPOON", "GOAL NET", "RIFLE", "FIRST PLACE MEDAL", "SECOND PLACE MEDAL",
       "THIRD PLACE MEDAL", "BOXING GLOVE", "MARTIAL ARTS UNIFORM", "CURLING STONE",
       "LACROSSE STICK AND BALL", "SOFTBALL", "FLYING DISC", "CROISSANT", "AVOCADO", "CUCUMBER",
       "BACON", "POTATO", "CARROT", "BAGUETTE BREAD", "GREEN SALAD", "SHALLOW PAN OF FOOD",
       "STUFFED FLATBREAD", "EGG", "GLASS OF MILK", "PEANUTS", "KIWIFRUIT", "PANCAKES", "DUMPLING",
       "FORTUNE COOKIE", "TAKEOUT BOX", "CHOPSTICKS", "BOWL WITH SPOON", "CUP WITH STRAW",
       "COCONUT", "BROCCOLI", "PIE", "PRETZEL", "CUT OF MEAT", "SANDWICH", "CANNED FOOD",
       "LEAFY GREEN", "MANGO", "MOON CAKE", "BAGEL",
       "SMILING FACE WITH SMILING EYES AND THREE HEARTS", "YAWNING FACE", "SMILING FACE WITH TEAR",
       "FACE WITH PARTY HORN AND PARTY HAT", "FACE WITH UNEVEN EYES AND WAVY MOUTH",
       "OVERHEATED FACE", "FREEZING FACE", "NINJA", "DISGUISED FACE", "FACE HOLDING BACK TEARS",
       "FACE WITH PLEADING EYES", "SARI", "LAB COAT", "GOGGLES", "HIKING BOOT", "FLAT SHOE",
       "CRAB", "LION FACE", "SCORPION", "TURKEY", "UNICORN FACE", "EAGLE", "DUCK", "BAT", "SHARK",
       "OWL", "FOX FACE", "BUTTERFLY", "DEER", "GORILLA", "LIZARD", "RHINOCEROS", "SHRIMP",
       "SQUID", "GIRAFFE FACE", "ZEBRA FACE", "HEDGEHOG", "SAUROPOD", "T-REX", "CRICKET",
       "KANGAROO", "LLAMA", "PEACOCK", "HIPPOPOTAMUS", "PARROT", "RACCOON", "LOBSTER", "MOSQUITO",
       "MICROBE", "BADGER", "SWAN", "MAMMOTH", "DODO", "SLOTH", "OTTER", "ORANGUTAN", "SKUNK",
       "FLAMINGO", "OYSTER", "BEAVER", "BISON", "SEAL", "GUIDE DOG", "PROBING CANE",
       "EMOJI COMPONENT RED HAIR", "EMOJI COMPONENT CURLY HAIR", "EMOJI COMPONENT BALD",
       "EMOJI COMPONENT WHITE HAIR", "BONE", "LEG", "FOOT", "TOOTH", "SUPERHERO", "SUPERVILLAIN",
       "SAFETY VEST", "EAR WITH HEARING AID", "MOTORIZED WHEELCHAIR", "MANUAL WHEELCHAIR",
       "MECHANICAL ARM", "MECHANICAL LEG", "CHEESE WEDGE", "CUPCAKE", "SALT SHAKER",
       "BEVERAGE BOX", "GARLIC", "ONION", "FALAFEL", "WAFFLE", "BUTTER", "MATE DRINK", "ICE CUBE",
       "BUBBLE TEA", "TROLL", "STANDING PERSON", "KNEELING PERSON", "DEAF PERSON",
       "FACE WITH MONOCLE", "ADULT", "CHILD", "OLDER ADULT", "BEARDED PERSON",
       "PERSON WITH HEADSCARF", "PERSON IN STEAMY ROOM", "PERSON CLIMBING",
       "PERSON IN LOTUS POSITION", "MAGE", "FAIRY", "VAMPIRE", "MERPERSON", "ELF", "GENIE",
       "ZOMBIE", "BRAIN", "ORANGE HEART", "BILLED CAP", "SCARF", "GLOVES", "COAT", "SOCKS",
       "RED GIFT ENVELOPE", "FIRECRACKER", "JIGSAW PUZZLE PIECE", "TEST TUBE", "PETRI DISH",
       "DNA DOUBLE HELIX", "COMPASS", "ABACUS", "FIRE EXTINGUISHER", "TOOLBOX", "BRICK", "MAGNET",
       "LUGGAGE", "LOTION BOTTLE", "SPOOL OF THREAD", "BALL OF YARN", "SAFETY PIN", "TEDDY BEAR",
       "BROOM", "BASKET", "ROLL OF PAPER", "BAR OF SOAP", "SPONGE", "RECEIPT", "NAZAR AMULET"]⟩]

end SchemaAtlas.Text

import ScriptGlue.Text.Numeral

namespace ScriptGlue.Text

/-- Letters in a row: the script, the first capital, the first small letter, the distance to the
next one, and the names of the letters. -/
def letterNames : List (String × Nat × Nat × Nat × List String) := [
  ("LATIN", 0x41, 0x61, 1, [
    "A", "B", "C", "D", "E", "F", "G", "H", "I", "J", "K", "L", "M", "N", "O", "P", "Q", "R", "S",
    "T", "U", "V", "W", "X", "Y", "Z"]),
  ("LATIN", 0xc0, 0xe0, 1, [
    "A WITH GRAVE", "A WITH ACUTE", "A WITH CIRCUMFLEX", "A WITH TILDE", "A WITH DIAERESIS",
    "A WITH RING ABOVE", "AE", "C WITH CEDILLA", "E WITH GRAVE", "E WITH ACUTE",
    "E WITH CIRCUMFLEX", "E WITH DIAERESIS", "I WITH GRAVE", "I WITH ACUTE", "I WITH CIRCUMFLEX",
    "I WITH DIAERESIS", "ETH", "N WITH TILDE", "O WITH GRAVE", "O WITH ACUTE", "O WITH CIRCUMFLEX",
    "O WITH TILDE", "O WITH DIAERESIS"]),
  ("LATIN", 0xd8, 0xf8, 1, [
    "O WITH STROKE", "U WITH GRAVE", "U WITH ACUTE", "U WITH CIRCUMFLEX", "U WITH DIAERESIS",
    "Y WITH ACUTE", "THORN"]),
  ("LATIN", 0x100, 0x101, 2, [
    "A WITH MACRON", "A WITH BREVE", "A WITH OGONEK", "C WITH ACUTE", "C WITH CIRCUMFLEX",
    "C WITH DOT ABOVE", "C WITH CARON", "D WITH CARON", "D WITH STROKE", "E WITH MACRON",
    "E WITH BREVE", "E WITH DOT ABOVE", "E WITH OGONEK", "E WITH CARON", "G WITH CIRCUMFLEX",
    "G WITH BREVE", "G WITH DOT ABOVE", "G WITH CEDILLA", "H WITH CIRCUMFLEX", "H WITH STROKE",
    "I WITH TILDE", "I WITH MACRON", "I WITH BREVE", "I WITH OGONEK"]),
  ("LATIN", 0x134, 0x135, 2, [
    "J WITH CIRCUMFLEX", "K WITH CEDILLA"]),
  ("LATIN", 0x139, 0x13a, 2, [
    "L WITH ACUTE", "L WITH CEDILLA", "L WITH CARON", "L WITH MIDDLE DOT", "L WITH STROKE",
    "N WITH ACUTE", "N WITH CEDILLA", "N WITH CARON"]),
  ("LATIN", 0x14a, 0x14b, 2, [
    "ENG", "O WITH MACRON", "O WITH BREVE", "O WITH DOUBLE ACUTE"]),
  ("LATIN", 0x154, 0x155, 2, [
    "R WITH ACUTE", "R WITH CEDILLA", "R WITH CARON", "S WITH ACUTE", "S WITH CIRCUMFLEX",
    "S WITH CEDILLA", "S WITH CARON", "T WITH CEDILLA", "T WITH CARON", "T WITH STROKE",
    "U WITH TILDE", "U WITH MACRON", "U WITH BREVE", "U WITH RING ABOVE", "U WITH DOUBLE ACUTE",
    "U WITH OGONEK", "W WITH CIRCUMFLEX", "Y WITH CIRCUMFLEX"]),
  ("LATIN", 0x179, 0x17a, 2, [
    "Z WITH ACUTE", "Z WITH DOT ABOVE", "Z WITH CARON"]),
  ("GREEK", 0x391, 0x3b1, 1, [
    "ALPHA", "BETA", "GAMMA", "DELTA", "EPSILON", "ZETA", "ETA", "THETA", "IOTA", "KAPPA", "LAMDA",
    "MU", "NU", "XI", "OMICRON", "PI", "RHO"]),
  ("GREEK", 0x3a3, 0x3c3, 1, [
    "SIGMA", "TAU", "UPSILON", "PHI", "CHI", "PSI", "OMEGA", "IOTA WITH DIALYTIKA",
    "UPSILON WITH DIALYTIKA"]),
  ("CYRILLIC", 0x400, 0x450, 1, [
    "IE WITH GRAVE", "IO", "DJE", "GJE", "UKRAINIAN IE", "DZE", "BYELORUSSIAN-UKRAINIAN I", "YI",
    "JE", "LJE", "NJE", "TSHE", "KJE", "I WITH GRAVE", "SHORT U", "DZHE"]),
  ("CYRILLIC", 0x410, 0x430, 1, [
    "A", "BE", "VE", "GHE", "DE", "IE", "ZHE", "ZE", "I", "SHORT I", "KA", "EL", "EM", "EN", "O",
    "PE", "ER", "ES", "TE", "U", "EF", "HA", "TSE", "CHE", "SHA", "SHCHA", "HARD SIGN", "YERU",
    "SOFT SIGN", "E", "YU", "YA"])]

/-- Characters that follow each other, by the first one and all their names. -/
def signNames : List (Nat × List String) := [
  (0x20, [
    "SPACE", "EXCLAMATION MARK", "QUOTATION MARK", "NUMBER SIGN", "DOLLAR SIGN", "PERCENT SIGN",
    "AMPERSAND", "APOSTROPHE", "LEFT PARENTHESIS", "RIGHT PARENTHESIS", "ASTERISK", "PLUS SIGN",
    "COMMA", "HYPHEN-MINUS", "FULL STOP", "SOLIDUS", "DIGIT ZERO", "DIGIT ONE", "DIGIT TWO",
    "DIGIT THREE", "DIGIT FOUR", "DIGIT FIVE", "DIGIT SIX", "DIGIT SEVEN", "DIGIT EIGHT",
    "DIGIT NINE", "COLON", "SEMICOLON", "LESS-THAN SIGN", "EQUALS SIGN", "GREATER-THAN SIGN",
    "QUESTION MARK", "COMMERCIAL AT"]),
  (0x5b, [
    "LEFT SQUARE BRACKET", "REVERSE SOLIDUS", "RIGHT SQUARE BRACKET", "CIRCUMFLEX ACCENT",
    "LOW LINE", "GRAVE ACCENT"]),
  (0x7b, ["LEFT CURLY BRACKET", "VERTICAL LINE", "RIGHT CURLY BRACKET", "TILDE"]),
  (0xa0, [
    "NO-BREAK SPACE", "INVERTED EXCLAMATION MARK", "CENT SIGN", "POUND SIGN", "CURRENCY SIGN",
    "YEN SIGN", "BROKEN BAR", "SECTION SIGN", "DIAERESIS", "COPYRIGHT SIGN",
    "FEMININE ORDINAL INDICATOR", "LEFT-POINTING DOUBLE ANGLE QUOTATION MARK", "NOT SIGN",
    "SOFT HYPHEN", "REGISTERED SIGN", "MACRON", "DEGREE SIGN", "PLUS-MINUS SIGN", "SUPERSCRIPT TWO",
    "SUPERSCRIPT THREE", "ACUTE ACCENT", "MICRO SIGN", "PILCROW SIGN", "MIDDLE DOT", "CEDILLA",
    "SUPERSCRIPT ONE", "MASCULINE ORDINAL INDICATOR", "RIGHT-POINTING DOUBLE ANGLE QUOTATION MARK",
    "VULGAR FRACTION ONE QUARTER", "VULGAR FRACTION ONE HALF", "VULGAR FRACTION THREE QUARTERS",
    "INVERTED QUESTION MARK"]),
  (0xd7, ["MULTIPLICATION SIGN"]),
  (0xdf, ["LATIN SMALL LETTER SHARP S"]),
  (0xf7, ["DIVISION SIGN"]),
  (0xff, ["LATIN SMALL LETTER Y WITH DIAERESIS"]),
  (0x130, [
    "LATIN CAPITAL LETTER I WITH DOT ABOVE", "LATIN SMALL LETTER DOTLESS I",
    "LATIN CAPITAL LIGATURE IJ", "LATIN SMALL LIGATURE IJ"]),
  (0x138, ["LATIN SMALL LETTER KRA"]),
  (0x149, ["LATIN SMALL LETTER N PRECEDED BY APOSTROPHE"]),
  (0x152, ["LATIN CAPITAL LIGATURE OE", "LATIN SMALL LIGATURE OE"]),
  (0x178, ["LATIN CAPITAL LETTER Y WITH DIAERESIS"]),
  (0x17f, ["LATIN SMALL LETTER LONG S"]),
  (0x386, [
    "GREEK CAPITAL LETTER ALPHA WITH TONOS", "GREEK ANO TELEIA",
    "GREEK CAPITAL LETTER EPSILON WITH TONOS", "GREEK CAPITAL LETTER ETA WITH TONOS",
    "GREEK CAPITAL LETTER IOTA WITH TONOS"]),
  (0x38c, ["GREEK CAPITAL LETTER OMICRON WITH TONOS"]),
  (0x38e, [
    "GREEK CAPITAL LETTER UPSILON WITH TONOS", "GREEK CAPITAL LETTER OMEGA WITH TONOS",
    "GREEK SMALL LETTER IOTA WITH DIALYTIKA AND TONOS"]),
  (0x3ac, [
    "GREEK SMALL LETTER ALPHA WITH TONOS", "GREEK SMALL LETTER EPSILON WITH TONOS",
    "GREEK SMALL LETTER ETA WITH TONOS", "GREEK SMALL LETTER IOTA WITH TONOS",
    "GREEK SMALL LETTER UPSILON WITH DIALYTIKA AND TONOS"]),
  (0x3c2, ["GREEK SMALL LETTER FINAL SIGMA"]),
  (0x3cc, [
    "GREEK SMALL LETTER OMICRON WITH TONOS", "GREEK SMALL LETTER UPSILON WITH TONOS",
    "GREEK SMALL LETTER OMEGA WITH TONOS", "GREEK CAPITAL KAI SYMBOL"]),
  (0x2010, [
    "HYPHEN", "NON-BREAKING HYPHEN", "FIGURE DASH", "EN DASH", "EM DASH", "HORIZONTAL BAR",
    "DOUBLE VERTICAL LINE", "DOUBLE LOW LINE", "LEFT SINGLE QUOTATION MARK",
    "RIGHT SINGLE QUOTATION MARK", "SINGLE LOW-9 QUOTATION MARK",
    "SINGLE HIGH-REVERSED-9 QUOTATION MARK", "LEFT DOUBLE QUOTATION MARK",
    "RIGHT DOUBLE QUOTATION MARK", "DOUBLE LOW-9 QUOTATION MARK",
    "DOUBLE HIGH-REVERSED-9 QUOTATION MARK", "DAGGER", "DOUBLE DAGGER", "BULLET",
    "TRIANGULAR BULLET", "ONE DOT LEADER", "TWO DOT LEADER", "HORIZONTAL ELLIPSIS",
    "HYPHENATION POINT", "LINE SEPARATOR", "PARAGRAPH SEPARATOR", "LEFT-TO-RIGHT EMBEDDING",
    "RIGHT-TO-LEFT EMBEDDING", "POP DIRECTIONAL FORMATTING", "LEFT-TO-RIGHT OVERRIDE",
    "RIGHT-TO-LEFT OVERRIDE", "NARROW NO-BREAK SPACE", "PER MILLE SIGN", "PER TEN THOUSAND SIGN",
    "PRIME", "DOUBLE PRIME", "TRIPLE PRIME", "REVERSED PRIME", "REVERSED DOUBLE PRIME",
    "REVERSED TRIPLE PRIME", "CARET", "SINGLE LEFT-POINTING ANGLE QUOTATION MARK",
    "SINGLE RIGHT-POINTING ANGLE QUOTATION MARK", "REFERENCE MARK", "DOUBLE EXCLAMATION MARK",
    "INTERROBANG", "OVERLINE", "UNDERTIE", "CHARACTER TIE", "CARET INSERTION POINT", "ASTERISM",
    "HYPHEN BULLET", "FRACTION SLASH", "LEFT SQUARE BRACKET WITH QUILL",
    "RIGHT SQUARE BRACKET WITH QUILL", "DOUBLE QUESTION MARK", "QUESTION EXCLAMATION MARK",
    "EXCLAMATION QUESTION MARK", "TIRONIAN SIGN ET", "REVERSED PILCROW SIGN",
    "BLACK LEFTWARDS BULLET", "BLACK RIGHTWARDS BULLET", "LOW ASTERISK", "REVERSED SEMICOLON"]),
  (0x20a9, ["WON SIGN", "NEW SHEQEL SIGN", "DONG SIGN", "EURO SIGN", "KIP SIGN"])]

/-- Single characters, control characters among them, which have only their other names. -/
def singleNames : List (String × Nat) := [
  ("NULL", 0x0), ("NUL", 0x0), ("ALERT", 0x7), ("BEL", 0x7), ("BACKSPACE", 0x8), ("BS", 0x8),
  ("CHARACTER TABULATION", 0x9), ("HORIZONTAL TABULATION", 0x9), ("TAB", 0x9), ("HT", 0x9),
  ("LINE FEED", 0xa), ("NEW LINE", 0xa), ("END OF LINE", 0xa), ("LF", 0xa), ("NL", 0xa),
  ("EOL", 0xa), ("LINE TABULATION", 0xb), ("VERTICAL TABULATION", 0xb), ("VT", 0xb),
  ("FORM FEED", 0xc), ("FF", 0xc), ("CARRIAGE RETURN", 0xd), ("CR", 0xd), ("ESCAPE", 0x1b),
  ("ESC", 0x1b), ("SP", 0x20), ("DELETE", 0x7f), ("DEL", 0x7f), ("NEXT LINE", 0x85), ("NEL", 0x85),
  ("NBSP", 0xa0), ("SHY", 0xad), ("COMBINING GRAVE ACCENT", 0x300),
  ("COMBINING ACUTE ACCENT", 0x301), ("COMBINING DIAERESIS", 0x308), ("EN SPACE", 0x2002),
  ("EM SPACE", 0x2003), ("ZERO WIDTH SPACE", 0x200b), ("ZWSP", 0x200b),
  ("ZERO WIDTH NON-JOINER", 0x200c), ("ZWNJ", 0x200c), ("ZERO WIDTH JOINER", 0x200d),
  ("ZWJ", 0x200d), ("TRADE MARK SIGN", 0x2122), ("OHM SIGN", 0x2126), ("KELVIN SIGN", 0x212a),
  ("ANGSTROM SIGN", 0x212b), ("LEFTWARDS ARROW", 0x2190), ("RIGHTWARDS ARROW", 0x2192),
  ("MINUS SIGN", 0x2212), ("INFINITY", 0x221e), ("SNOWMAN", 0x2603), ("CHECK MARK", 0x2713),
  ("IDEOGRAPHIC SPACE", 0x3000), ("ZERO WIDTH NO-BREAK SPACE", 0xfeff), ("BYTE ORDER MARK", 0xfeff),
  ("BOM", 0xfeff), ("ZWNBSP", 0xfeff), ("REPLACEMENT CHARACTER", 0xfffd), ("SNAKE", 0x1f40d),
  ("GRINNING FACE", 0x1f600)]

def letterNamed? (name : String) : Option Nat :=
  letterNames.findSome? fun (script, capital, small, step, names) =>
    let place? (kind : String) : Option Nat :=
      names.findIdx? fun n => script ++ kind ++ n == name
    (place? " CAPITAL LETTER ").map (capital + step * ·) <|>
      (place? " SMALL LETTER ").map (small + step * ·)

def signNamed? (name : String) : Option Nat :=
  signNames.findSome? fun (first, names) => (names.findIdx? (· == name)).map (first + ·)

/-- The first and the last code of each row of ideographs, which are named by their codes. -/
def ideographs : List (Nat × Nat) := [
  (0x3400, 0x4dbf), (0x4e00, 0x9fff), (0x20000, 0x2a6df), (0x2a700, 0x2b738), (0x2b740, 0x2b81d),
  (0x2b820, 0x2cea1), (0x2ceb0, 0x2ebe0), (0x30000, 0x3134a)]

def ideographNamed? (name : String) : Option Nat := do
  let digits ← "CJK UNIFIED IDEOGRAPH-".toList.isPrefixOf? name.toList
  if digits.length < 4 || 5 < digits.length || digits.any Char.isLower then none
  else
    let code ← numeral? 16 digits
    if ideographs.any fun (first, last) => first ≤ code && code ≤ last then some code else none

/-- The code of the character with a name, which may be in letters of either case unless it holds a
code. -/
def characterNamed? (name : String) : Option Nat :=
  let capitals := name.toUpper
  letterNamed? capitals <|> signNamed? capitals <|> singleNames.lookup capitals <|>
    ideographNamed? name

end ScriptGlue.Text

import ScriptGlue.Text.Category

namespace ScriptGlue.Text

/-- White space of all scripts: tab to carriage return, the four ASCII separators, and the spaces
and line separators beyond ASCII. -/
def isBlank (c : Char) : Bool :=
  let n := c.toNat
  (9 ≤ n && n ≤ 13) || (28 ≤ n && n ≤ 32) || n == 0x85 || n == 0xA0 || n == 0x1680 ||
    (0x2000 ≤ n && n ≤ 0x200A) || n == 0x2028 || n == 0x2029 || n == 0x202F || n == 0x205F ||
    n == 0x3000

def trimLeft (s : List Char) : List Char := s.dropWhile isBlank

def trimRight (s : List Char) : List Char := (s.reverse.dropWhile isBlank).reverse

def trim (s : List Char) : List Char := trimRight (trimLeft s)

def words (s : List Char) : List (List Char) := (s.splitOnP isBlank).filter (!·.isEmpty)

/-- A letter, or any character that stands for a number, superscripts and letter numerals
included. -/
def isAlphanumeric (c : Char) : Bool :=
  if c.toNat < 128 then c.isAlphanum
  else
    match category c with
    | .letter | .digit | .numeral | .number => true
    | .mark | .joiner | .symbol | .hidden => false

def isWord (c : Char) : Bool := isAlphanumeric c || c == '_'

/-- A word boundary lies where exactly one of the two neighbours is a word character; the ends of
the text count as no word character. -/
def isBoundary (left right : Option Char) : Bool := left.any isWord != right.any isWord

/-- Letters that no identifier begins with, since their compatible spelling begins with a mark or a
space, or is a number. -/
def lateLetters : List Nat := [
  0x37a, 0xe33, 0xeb3, 0x2e2f, 0xfc5e, 0xfc5f, 0xfc60, 0xfc61, 0xfc62, 0xfc63, 0xfdfa, 0xfdfb,
  0xfe70, 0xfe72, 0xfe74, 0xfe76, 0xfe78, 0xfe7a, 0xfe7c, 0xfe7e, 0xff9e, 0xff9f]

/-- Letters that no identifier has at all, since their compatible spelling has a space. -/
def unusedLetters : List Nat := [
  0x37a, 0x2e2f, 0xfc5e, 0xfc5f, 0xfc60, 0xfc61, 0xfc62, 0xfc63, 0xfdfa, 0xfdfb, 0xfe70, 0xfe72,
  0xfe74, 0xfe76, 0xfe78, 0xfe7a, 0xfe7c, 0xfe7e]

def letterLike : List Nat := [0x1885, 0x1886, 0x2118, 0x212e]

def markLike : List Nat := [
  0xb7, 0x387, 0x1369, 0x136a, 0x136b, 0x136c, 0x136d, 0x136e, 0x136f, 0x1370, 0x1371, 0x19da,
  0x2118, 0x212e]

def beginsIdentifier (c : Char) : Bool :=
  if c.toNat < 128 then c.isAlpha || c == '_'
  else
    letterLike.contains c.toNat || match category c with
      | .letter | .numeral => !lateLetters.contains c.toNat
      | _ => false

def continuesIdentifier (c : Char) : Bool :=
  if c.toNat < 128 then c.isAlphanum || c == '_'
  else
    markLike.contains c.toNat || match category c with
      | .letter | .numeral | .digit | .mark | .joiner => !unusedLetters.contains c.toNat
      | _ => false

def isIdentifier : List Char → Bool
  | [] => false
  | c :: cs => beginsIdentifier c && cs.all continuesIdentifier

end ScriptGlue.Text

import ScriptGlue.Text.Case
import ScriptGlue.Text.Numeral
import ScriptGlue.Text.Word

namespace ScriptGlue.Pattern

inductive CharClass where
  | digit
  | space
  | word
  deriving DecidableEq

def CharClass.holds (onlyASCII : Bool) : CharClass → Char → Bool
  | digit, c => c.isDigit || (!onlyASCII && Text.isDecimal c)
  | space, c => Text.isBlank c && (!onlyASCII || c == ' ' || (9 ≤ c.toNat && c.toNat ≤ 13))
  | word, c => Text.isWord c && (!onlyASCII || c.toNat < 128)

/-- Whether letters of either case count as one: not at all, within ASCII, or in all scripts. -/
inductive CaseRule where
  | exact
  | ascii
  | full
  deriving DecidableEq

namespace CaseRule

def fold : CaseRule → Char → Char
  | exact, c => c
  | ascii, c => c.toLower
  | full, c => Text.lowerCase c

def variants : CaseRule → Char → List Char
  | exact, c => [c]
  | ascii, c => [c.toLower, c.toUpper]
  | full, c => Text.caseVariants c

end CaseRule

/-- An item of a set. Characters are given by their codes, of which some are those of no character
at all. -/
inductive CharItem where
  | single (code : Nat)
  | range (first last : Nat)
  | ofClass (c : CharClass) (negated : Bool)
  deriving DecidableEq

structure CharRules where
  cases : CaseRule := .exact
  onlyASCII : Bool := false

/-- A range holds a character if it has one that counts as one with it, and so does a single one,
except that beyond the first plane it has to be the letter that stands for both cases. -/
def CharItem.holds (r : CharRules) (c : Char) : CharItem → Bool
  | single code =>
    if code < 0x10000 then (r.cases.variants c).any (·.toNat == code)
    else (r.cases.fold c).toNat == code
  | range first last => (r.cases.variants c).any fun v => first ≤ v.toNat && v.toNat ≤ last
  | ofClass k negated => k.holds r.onlyASCII (r.cases.fold c) != negated

structure CharSet where
  items : List CharItem
  negated : Bool := false
  rules : CharRules := {}

namespace CharSet

def ofCode (rules : CharRules) (code : Nat) : CharSet := { items := [.range code code], rules }

def holds (s : CharSet) (c : Char) : Bool := s.items.any (·.holds s.rules c) != s.negated

end CharSet

end ScriptGlue.Pattern

import ScriptGlue.Pattern.CharSet
import ScriptGlue.Text.CharacterName

namespace ScriptGlue.Pattern

inductive Token where
  | plain (c : Char)
  | escaped (c : Char)
  /-- A backslash at the end, which nothing reads. -/
  | dangling
  deriving DecidableEq

namespace Token

def ofText : List Char → List Token
  | [] => []
  | ['\\'] => [dangling]
  | '\\' :: c :: cs => escaped c :: ofText cs
  | c :: cs => plain c :: ofText cs

/-- The plain characters at the head that pass a test, but at most `limit` of them, and the rest. -/
def span (test : Char → Bool) : Nat → List Token → List Char × List Token
  | limit + 1, plain c :: ts =>
    if test c then
      let (cs, rest) := span test limit ts
      (c :: cs, rest)
    else ([], plain c :: ts)
  | _, ts => ([], ts)

/-- A name of plain characters that a given one closes, and the rest behind that. -/
def name? (close : Char) (ts : List Token) : Option (String × List Token) :=
  match span (· != close) ts.length ts with
  | (c :: cs, plain _ :: rest) => some (String.ofList (c :: cs), rest)
  | _ => none

/-- What is left behind a comment that a given character closes; nothing, if none does. -/
def afterComment (close : Char) : List Token → List Token
  | [] => []
  | [dangling] => [dangling]
  | t :: ts => if t == plain close then ts else afterComment close ts

end Token

inductive Escape where
  | character (code : Nat)
  | ofClass (c : CharClass) (negated : Bool)
  | start
  | finish
  | boundary (negated : Bool)
  | reference (group : Nat)

namespace Escape

def class? : Char → Option (CharClass × Bool)
  | 'd' => some (.digit, false)
  | 'D' => some (.digit, true)
  | 's' => some (.space, false)
  | 'S' => some (.space, true)
  | 'w' => some (.word, false)
  | 'W' => some (.word, true)
  | _ => none

def controlCode? : Char → Option Nat
  | 'a' => some 7
  | 'f' => some 12
  | 'n' => some 10
  | 'r' => some 13
  | 't' => some 9
  | 'v' => some 11
  | _ => none

def codeLength? : Char → Option Nat
  | 'x' => some 2
  | 'u' => some 4
  | 'U' => some 8
  | _ => none

def readCode (length : Nat) (ts : List Token) : Option (Nat × List Token) :=
  let (digits, rest) := Token.span (Text.isDigitOf 16) length ts
  let code := Text.numeral 16 digits
  if digits.length == length && code < 0x110000 then some (code, rest) else none

def readName : List Token → Option (Nat × List Token)
  | .plain '\x7b' :: ts => do
    let (name, rest) ← Token.name? '\x7d' ts
    return (← Text.characterNamed? name, rest)
  | _ => none

/-- An escape that stands for one character, whether in a set or not. A letter of ASCII without a
meaning of its own is no escape, and neither is a digit. -/
def readCharacter (c : Char) (ts : List Token) : Option (Nat × List Token) :=
  if let some code := controlCode? c then some (code, ts)
  else if let some length := codeLength? c then readCode length ts
  else if c == 'N' then readName ts
  else if c.isAlphanum then none
  else some (c.toNat, ts)

def readOctal (c : Char) (ts : List Token) : Option (Nat × List Token) :=
  let (digits, rest) := Token.span (Text.isDigitOf 8) 2 ts
  let code := Text.numeral 8 (c :: digits)
  if code ≤ 255 then some (code, rest) else none

def readInSet (c : Char) (ts : List Token) : Option (CharItem × List Token) :=
  if let some (k, negated) := class? c then some (.ofClass k negated, ts)
  else if c == 'b' then some (.single 8, ts)
  else if Text.isDigitOf 8 c then (readOctal c ts).map fun r => (.single r.1, r.2)
  else (readCharacter c ts).map fun r => (.single r.1, r.2)

/-- Digits stand for a character if the first one is a zero or there are three octal ones, and for
a group otherwise. -/
def readDigits (c : Char) (ts : List Token) : Option (Escape × List Token) :=
  let octal := (c :: (Token.span (Text.isDigitOf 8) 2 ts).1).filter (Text.isDigitOf 8)
  if c == '0' || octal.length == 3 then (readOctal c ts).map fun r => (character r.1, r.2)
  else
    let (digits, rest) := Token.span Char.isDigit 1 ts
    some (reference (Text.numeral 10 (c :: digits)), rest)

def read (c : Char) (ts : List Token) : Option (Escape × List Token) :=
  if let some (k, negated) := class? c then some (ofClass k negated, ts)
  else if c == 'A' then some (start, ts)
  else if c == 'Z' then some (finish, ts)
  else if c == 'b' then some (boundary false, ts)
  else if c == 'B' then some (boundary true, ts)
  else if c.isDigit then readDigits c ts
  else (readCharacter c ts).map fun r => (character r.1, r.2)

end Escape

end ScriptGlue.Pattern

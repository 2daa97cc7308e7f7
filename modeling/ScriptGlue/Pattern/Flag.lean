import ScriptGlue.Pattern.CharSet
import ScriptGlue.Pattern.Escape

namespace ScriptGlue.Pattern

structure Flags where
  /-- Letters of either case count as one. -/
  anyCase : Bool := false
  ofLine : Bool := false
  dotAll : Bool := false
  /-- White space and comments stand for nothing. -/
  verbose : Bool := false
  /-- Classes and cases are those of ASCII. -/
  onlyASCII : Bool := false
  once : Bool := false

namespace Flags

def cases (f : Flags) : CaseRule :=
  if !f.anyCase then .exact else if f.onlyASCII then .ascii else .full

def rules (f : Flags) : CharRules := { cases := f.cases, onlyASCII := f.onlyASCII }

def setLetter (value : Bool) (f : Flags) : Char → Flags
  | 'i' => { f with anyCase := value }
  | 'm' => { f with ofLine := value }
  | 's' => { f with dotAll := value }
  | 'x' => { f with verbose := value }
  | 'a' => { f with onlyASCII := value }
  | 'u' => { f with onlyASCII := !value }
  | 't' => { f with once := value }
  | _ => f

def change (f : Flags) (on off : List Char) : Flags :=
  off.foldl (setLetter false) (on.foldl (setLetter true) f)

end Flags

/-- What the letters in a group say: the whole pattern is to be taken so, or the group itself is,
with some flags switched on and others off. -/
inductive FlagSetting where
  | whole (on : List Char)
  | group (on off : List Char)

namespace FlagSetting

def isFlag (c : Char) : Bool := "imsxaut".toList.contains c

def isContradictory (on : List Char) : Bool := on.contains 'a' && on.contains 'u'

/-- The letters are about groups, and none of them is switched both on and off. The scripts can
only be switched on. -/
def isForGroup (on off : List Char) : Bool :=
  !on.contains 't' && off.all fun c => !on.contains c && !"aut".toList.contains c

def read (ts : List Token) : Option (FlagSetting × List Token) :=
  let (on, rest) := Token.span isFlag ts.length ts
  if isContradictory on then none
  else
    match rest with
    | .plain ')' :: rest => if on.isEmpty then none else some (whole on, rest)
    | .plain ':' :: rest => if isForGroup on [] then some (group on [], rest) else none
    | .plain '-' :: rest =>
      match Token.span isFlag rest.length rest with
      | (c :: cs, .plain ':' :: rest) =>
        if isForGroup on (c :: cs) then some (group on (c :: cs), rest) else none
      | _ => none
    | _ => none

def isSpace (c : Char) : Bool := c == ' ' || (9 ≤ c.toNat && c.toNat ≤ 13)

/-- Passes over what may stand before the first item of a pattern: settings for the whole pattern
and comments, and white space once it stands for nothing. The first argument bounds their number. -/
def readPreamble : Nat → List Char → List Token → List Char × List Token
  | 0, on, ts => (on, ts)
  | n + 1, on, ts =>
    match ts with
    | .plain '(' :: .plain '?' :: .plain '#' :: rest =>
      if rest.contains (.plain ')') then readPreamble n on (Token.afterComment ')' rest)
      else (on, ts)
    | .plain '(' :: .plain '?' :: rest =>
      match read rest with
      | some (whole more, rest) => readPreamble n (on ++ more) rest
      | _ => (on, ts)
    | .plain c :: rest =>
      if on.contains 'x' && isSpace c then readPreamble n on rest
      else if on.contains 'x' && c == '#' then readPreamble n on (Token.afterComment '\n' rest)
      else (on, ts)
    | ts => (on, ts)

end FlagSetting

end ScriptGlue.Pattern

import ScriptGlue.Pattern.CharSet

namespace ScriptGlue

/-- How often a repetition matches: as often as it can, as seldom as it can, or as often as it can
without ever giving anything back. -/
inductive RepeatMode where
  | greedy
  | lazy
  | possessive
  deriving DecidableEq

/-- A pattern is matched from a place with a goal for the rest: among the ways to match it, in their
order, the first one after which the goal can be reached is taken. -/
inductive Pattern where
  | empty
  | one (s : Pattern.CharSet)
  | seq (a b : Pattern)
  | alt (a b : Pattern)
  | many (mode : RepeatMode) (p : Pattern) (least : Nat) (most? : Option Nat)
  | start (ofLine : Bool)
  /-- The end of the text; also before a line feed that ends the text, or before every one. -/
  | finish (beforeLast ofLine : Bool)
  | boundary (onlyASCII negated : Bool)
  | capture (group : Nat) (p : Pattern)
  | backReference (group : Nat) (cases : Pattern.CaseRule)
  /-- One of two patterns, by whether a group has captured something. -/
  | ifCaptured (group : Nat) (yes no : Pattern)
  /-- What has been matched is not given back. -/
  | atomic (p : Pattern)
  /-- A match follows the place, or does not. -/
  | lookAhead (negated : Bool) (p : Pattern)
  /-- A match of a fixed width comes before the place, or does not. -/
  | lookBehind (negated : Bool) (width : Nat) (p : Pattern)

namespace Pattern

/-- A place in the text, and the ranges that groups have captured on the way to it, the latest
first. -/
structure Place where
  position : Nat
  groups : List (Nat × Nat × Nat) := []

abbrev Goal := Place → Option Place

namespace Place

def captured? (p : Place) (group : Nat) : Option (Nat × Nat) := p.groups.lookup group

def capture (p : Place) (group : Nat) (origin : Place) : Place :=
  { p with groups := (group, origin.position, p.position) :: p.groups }

end Place

def sameText (rule : CaseRule) (s : Array Char) (first last position : Nat) : Bool :=
  position + (last - first) ≤ s.size && (List.range (last - first)).all fun k =>
    (s[first + k]?.map rule.fold) == (s[position + k]?.map rule.fold)

def before? (s : Array Char) (i : Nat) : Option Char := if i == 0 then none else s[i - 1]?

/-- A boundary has a word character on exactly one side. The empty text has neither a boundary nor
a place that is none. -/
def atBoundary (s : Array Char) (onlyASCII negated : Bool) (i : Nat) : Bool :=
  let isWord (c : Char) : Bool := CharClass.word.holds onlyASCII c
  !s.isEmpty && ((before? s i).any isWord != s[i]?.any isWord) != negated

/-- Beyond its least number a repetition may go on as long as it is short of the greatest and the
last round has moved. -/
def mayRepeat (most? : Option Nat) (count : Nat) (last? : Option Nat) (p : Place) : Bool :=
  most?.all (count < ·) && last? != some p.position

/-- The rounds of a repetition after `count` of them, the last of which began at `last?`. The first
argument bounds the number of rounds. -/
def rounds (body : Goal → Goal) (isLazy : Bool) (least : Nat) (most? : Option Nat) (goal : Goal) :
    Nat → Nat → Option Nat → Goal
  | 0, _, _, _ => none
  | n + 1, count, last?, p =>
    if count < least then body (rounds body isLazy least most? goal n (count + 1) last?) p
    else if !mayRepeat most? count last? p then goal p
    else if isLazy then
      goal p <|> body (rounds body isLazy least most? goal n (count + 1) (some p.position)) p
    else body (rounds body isLazy least most? goal n (count + 1) (some p.position)) p <|> goal p

def possessed (body : Goal → Goal) (least : Nat) (most? : Option Nat) :
    Nat → Nat → Option Nat → Goal
  | 0, _, _, _ => none
  | n + 1, count, last?, p =>
    if count < least then (body some p).bind (possessed body least most? n (count + 1) last?)
    else if !mayRepeat most? count last? p then some p
    else
      match body some p with
      | some q => possessed body least most? n (count + 1) (some p.position) q
      | none => some p

/-- Matches a pattern at a place and goes on to the goal. No repetition needs more rounds beyond its
least number than the text has places. -/
def run (s : Array Char) : Pattern → Goal → Goal
  | empty, goal, p => goal p
  | one set, goal, p =>
    if s[p.position]?.any set.holds then goal { p with position := p.position + 1 } else none
  | seq a b, goal, p => run s a (run s b goal) p
  | alt a b, goal, p => run s a goal p <|> run s b goal p
  | many .possessive q least most?, goal, p =>
    (possessed (run s q) least most? (least + s.size + 2) 0 none p).bind goal
  | many mode q least most?, goal, p =>
    rounds (run s q) (mode == .lazy) least most? goal (least + s.size + 2) 0 none p
  | start ofLine, goal, p =>
    if p.position == 0 || (ofLine && before? s p.position == some '\n') then goal p else none
  | finish beforeLast ofLine, goal, p =>
    let i := p.position
    if i == s.size || (s[i]? == some '\n' && (ofLine || (beforeLast && i + 1 == s.size))) then
      goal p
    else none
  | boundary onlyASCII negated, goal, p =>
    if atBoundary s onlyASCII negated p.position then goal p else none
  | capture group q, goal, p => run s q (fun r => goal (r.capture group p)) p
  | backReference group rule, goal, p =>
    match p.captured? group with
    | some (first, last) =>
      if sameText rule s first last p.position then
        goal { p with position := p.position + (last - first) }
      else none
    | none => none
  | ifCaptured group yes no, goal, p =>
    if (p.captured? group).isSome then run s yes goal p else run s no goal p
  | atomic q, goal, p => (run s q some p).bind goal
  | lookAhead negated q, goal, p =>
    match run s q some p, negated with
    | some r, false => goal { r with position := p.position }
    | none, true => goal p
    | _, _ => none
  | lookBehind negated width q, goal, p =>
    let found? :=
      if p.position < width then none else run s q some { p with position := p.position - width }
    match found?, negated with
    | some r, false => goal { r with position := p.position }
    | none, true => goal p
    | _, _ => none

def occursIn (p : Pattern) (text : String) : Bool :=
  let s := text.toList.toArray
  (List.range (s.size + 1)).any fun i => (run s p some ⟨i, []⟩).isSome

end Pattern

end ScriptGlue

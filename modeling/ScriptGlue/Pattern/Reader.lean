import ScriptGlue.Pattern
import ScriptGlue.Pattern.Escape
import ScriptGlue.Pattern.Flag
import ScriptGlue.Text.Numeral
import ScriptGlue.Text.Word

namespace ScriptGlue.Pattern

/-- The least number and, unless there is no limit, the greatest. -/
structure Width where
  least : Nat
  most? : Option Nat
  deriving DecidableEq

namespace Width

def exactly (n : Nat) : Width := ⟨n, some n⟩

def add (a b : Width) : Width :=
  ⟨a.least + b.least, do return (← a.most?) + (← b.most?)⟩

def join (a b : Width) : Width :=
  ⟨min a.least b.least, do return max (← a.most?) (← b.most?)⟩

def times (w : Width) (least : Nat) (most? : Option Nat) : Width where
  least := w.least * least
  most? :=
    if w.most? == some 0 || most? == some 0 then some 0
    else do return (← w.most?) * (← most?)

/-- The one number of characters that all matches have, if a look-behind can have it. -/
def fixed? (w : Width) : Option Nat :=
  if w.most? == some w.least && w.least < 0x100000000 then some w.least else none

end Width

def width (groups : Nat → Width) : Pattern → Width
  | one _ => .exactly 1
  | seq a b => (a.width groups).add (b.width groups)
  | alt a b | ifCaptured _ a b => (a.width groups).join (b.width groups)
  | many _ p least most? => (p.width groups).times least most?
  | capture _ p | atomic p => p.width groups
  | backReference group _ => groups group
  | empty | start _ | finish _ _ | boundary _ _ | lookAhead _ _ | lookBehind _ _ _ => .exactly 0

namespace Bracket

def readItem : List Token → Option (CharItem × List Token)
  | .plain c :: ts => some (.single c.toNat, ts)
  | .escaped c :: ts => Escape.readInSet c ts
  | _ => none

def range? : CharItem → CharItem → Option CharItem
  | .single first, .single last => if first ≤ last then some (.range first last) else none
  | _, _ => none

/-- The items up to the closing bracket, which does not close as the first one. The first argument
bounds their number. -/
def readItems : Nat → Bool → List Token → Option (List CharItem × List Token)
  | 0, _, _ => none
  | n + 1, isFirst, ts => do
    match ts, isFirst with
    | .plain ']' :: rest, false => return ([], rest)
    | _, _ =>
      let (item, rest) ← readItem ts
      match rest with
      | .plain '-' :: .plain ']' :: rest => return ([item, .single '-'.toNat], rest)
      | .plain '-' :: rest =>
        let (last, rest) ← readItem rest
        let range ← range? item last
        let (items, rest) ← readItems n false rest
        return (range :: items, rest)
      | rest =>
        let (items, rest) ← readItems n false rest
        return (item :: items, rest)

def ofItems (rules : CharRules) (negated : Bool) (items : List CharItem) : CharSet :=
  match items.eraseDups with
  | [.single code] => { CharSet.ofCode rules code with negated }
  | items => { items, negated, rules }

def read (rules : CharRules) (ts : List Token) : Option (CharSet × List Token) := do
  let (negated, ts) := match ts with
    | .plain '^' :: rest => (true, rest)
    | ts => (false, ts)
  let (items, rest) ← readItems (ts.length + 1) true ts
  return (ofItems rules negated items, rest)

end Bracket

inductive ReadFault where
  | malformed
  | repetitionTooLarge
  | flagsIncompatible
  deriving DecidableEq

/-- The message of a fault; that of a malformed pattern belongs to another party. -/
def ReadFault.message : ReadFault → String
  | malformed => ""
  | repetitionTooLarge => "the repetition number is too large"
  | flagsIncompatible => "ASCII and UNICODE flags are incompatible"

/-- What has been read of a pattern, up to the tokens that are left. -/
structure Progress where
  rest : List Token
  opened : Nat := 0
  /-- The groups that have been closed, with their widths. -/
  closed : List (Nat × Width) := []
  names : List (String × Nat) := []
  /-- The greatest number that a condition has named; the group may follow later. -/
  mentioned : Nat := 0
  /-- Inside of a look-behind, how many groups had been opened before it. -/
  limit? : Option Nat := none
  /-- The pattern is refused once all of it has been read. -/
  isRefused : Bool := false

namespace Progress

def width (s : Progress) (group : Nat) : Width := (s.closed.lookup group).getD (.exactly 0)

/-- A group can be referred to once it is closed, and from a look-behind only if it was opened
before. -/
def canRefer (s : Progress) (group : Nat) : Bool :=
  (s.closed.lookup group).isSome && s.limit?.all (group ≤ ·)

/-- A condition may be about any group, but in a look-behind about those alone that can be referred
to. -/
def canDepend (s : Progress) (group : Nat) : Bool := s.limit?.isNone || s.canRefer group

end Progress

abbrev Reader := StateT Progress (Except ReadFault)

namespace Reader

def fail {α : Type} : Reader α := throw .malformed

def require (b : Bool) : Reader Unit := if b then return () else fail

/-- Reads the tokens that are left with a reader that knows nothing of groups. -/
def lift {α : Type} (read : List Token → Option (α × List Token)) : Reader α := do
  match read (← get).rest with
  | some (a, rest) => do
    modify fun s => { s with rest }
    return a
  | none => fail

def passes (c : Char) : Reader Bool := do
  match (← get).rest with
  | .plain d :: rest =>
    if c == d then do
      modify fun s => { s with rest }
      return true
    else return false
  | _ => return false

def expect (c : Char) : Reader Unit := do require (← passes c)

def next : Reader Token := lift fun
  | t :: ts => some (t, ts)
  | [] => none

def skip (after : List Token → List Token) : Reader Unit :=
  modify fun s => { s with rest := after s.rest }

def openGroup (name? : Option String) : Reader Nat := do
  let group := (← get).opened + 1
  match name? with
  | none => modify fun s => { s with opened := group }
  | some name => do
    require ((← get).names.lookup name).isNone
    modify fun s => { s with opened := group, names := (name, group) :: s.names }
  return group

def closeGroup (group : Nat) (p : Pattern) : Reader Unit :=
  modify fun s => { s with closed := (group, p.width s.width) :: s.closed }

def reference (f : Flags) (group : Nat) : Reader Pattern := do
  require ((← get).canRefer group)
  return .backReference group f.cases

def groupName (close : Char) : Reader String := do
  let name ← lift (Token.name? close)
  require (Text.isIdentifier name.toList)
  return name

def groupNamed (name : String) : Reader Nat := do
  match (← get).names.lookup name with
  | some group => return group
  | none => fail

def condition : Reader Nat := do
  let name ← lift (Token.name? ')')
  let group ←
    if Text.isIdentifier name.toList then groupNamed name
    else
      match Text.wholeNumber? name.toList with
      | some (.ofNat (n + 1)) => do
        modify fun s => { s with mentioned := max s.mentioned (n + 1) }
        pure (n + 1)
      | _ => fail
  require ((← get).canDepend group)
  return group

def behind {α : Type} (part : Reader α) : Reader α := do
  let limit? := (← get).limit?
  modify fun s => { s with limit? := limit? <|> some s.opened }
  let a ← part
  modify fun s => { s with limit? }
  return a

def lookBehind (negated : Bool) (p : Pattern) : Reader Pattern := do
  match (p.width (← get).width).fixed? with
  | some width => return .lookBehind negated width p
  | none => do
    modify fun s => { s with isRefused := true }
    return .empty

end Reader

/-- What a quantifier may follow: an item, but neither an anchor nor another quantifier. -/
inductive ItemKind where
  | item
  | anchor
  | repetition
  deriving DecidableEq

/-- The numbers of a quantifier in braces, the opening one of which has been read. Braces that hold
none are characters. -/
def readBounds (ts : List Token) : Option ((Nat × Option Nat) × List Token) :=
  let (low, rest) := Token.span Char.isDigit ts.length ts
  let (high, rest) := match rest with
    | .plain ',' :: rest => Token.span Char.isDigit rest.length rest
    | rest => (low, rest)
  match rest with
  | .plain '\x7d' :: rest =>
    if ts.head? == some (.plain '\x7d') then none
    else
      let most? := if high.isEmpty then none else some (Text.numeral 10 high)
      some ((Text.numeral 10 low, most?), rest)
  | _ => none

def quantifier? (c : Char) (ts : List Token) : Option ((Nat × Option Nat) × List Token) :=
  match c with
  | '?' => some ((0, some 1), ts)
  | '*' => some ((0, none), ts)
  | '+' => some ((1, none), ts)
  | '\x7b' => readBounds ts
  | _ => none

/-- Bounds beyond what a repetition can count; a dangling backslash is noticed before. -/
def checkBounds (least : Nat) (most? : Option Nat) : Reader Unit := do
  if 0xffffffff ≤ least || most?.any (0xffffffff ≤ ·) then
    if (← get).rest.head? == some .dangling then Reader.fail
    else throw .repetitionTooLarge
  Reader.require (most?.all (least ≤ ·))

def repeatLast (f : Flags) (bounds : Nat × Option Nat) :
    List (Pattern × ItemKind) → Reader (List (Pattern × ItemKind))
  | (p, .item) :: items => do
    let mode ← do
      if ← Reader.passes '?' then pure RepeatMode.lazy
      else if ← Reader.passes '+' then pure .possessive
      else pure .greedy
    if f.once then modify fun s => { s with isRefused := true }
    return (.many mode p bounds.1 bounds.2, .repetition) :: items
  | _ => Reader.fail

def readEscape (f : Flags) (c : Char) : Reader (Pattern × ItemKind) := do
  match ← Reader.lift (Escape.read c) with
  | .character code => return (.one (.ofCode f.rules code), .item)
  | .ofClass k negated => return (.one { items := [.ofClass k negated], rules := f.rules }, .item)
  | .start => return (.start false, .anchor)
  | .finish => return (.finish false false, .anchor)
  | .boundary negated => return (.boundary f.onlyASCII negated, .anchor)
  | .reference group => return (← Reader.reference f group, .item)

/-- An item that begins with a plain character and is neither a group nor a quantifier. -/
def readPlain (f : Flags) (c : Char) : Reader (Pattern × ItemKind) := do
  match c with
  | '[' => return (.one (← Reader.lift (Bracket.read f.rules)), .item)
  | '.' =>
    let items := if f.dotAll then [] else [.single '\n'.toNat]
    return (.one { items, negated := true }, .item)
  | '^' => return (.start f.ofLine, .anchor)
  | '$' => return (.finish true f.ofLine, .anchor)
  | c => return (.one (.ofCode f.rules c.toNat), .item)

def sequence (items : List (Pattern × ItemKind)) : Pattern :=
  items.foldl (fun p item => .seq item.1 p) .empty

mutual

/-- Alternatives, up to a closing parenthesis or the end. Each step inside costs one unit of the
first argument. -/
def readAlternatives : Nat → Flags → Reader Pattern
  | 0, _ => Reader.fail
  | n + 1, f => do
    let p ← readItems n f []
    if ← Reader.passes '|' then return .alt p (← readAlternatives n f) else return p

def readItems : Nat → Flags → List (Pattern × ItemKind) → Reader Pattern
  | 0, _, _ => Reader.fail
  | n + 1, f, items => do
    match (← get).rest.head? with
    | none | some (.plain '|') | some (.plain ')') => return sequence items
    | some _ =>
      match ← Reader.next with
      | .dangling => Reader.fail
      | .escaped c => readItems n f ((← readEscape f c) :: items)
      | .plain c =>
        if f.verbose && FlagSetting.isSpace c then readItems n f items
        else if f.verbose && c == '#' then do
          Reader.skip (Token.afterComment '\n')
          readItems n f items
        else
          match quantifier? c (← get).rest with
          | some (bounds, rest) => do
            Reader.skip fun _ => rest
            checkBounds bounds.1 bounds.2
            readItems n f (← repeatLast f bounds items)
          | none =>
            if c == '(' then
              match ← readGroup n f with
              | some p => readItems n f ((p, .item) :: items)
              | none => readItems n f items
            else readItems n f ((← readPlain f c) :: items)

def readGroup : Nat → Flags → Reader (Option Pattern)
  | 0, _ => Reader.fail
  | n + 1, f => do
    if !(← Reader.passes '?') then return some (← readCapture n f none)
    else if ← Reader.passes 'P' then
      if ← Reader.passes '<' then
        return some (← readCapture n f (some (← Reader.groupName '>')))
      else do
        Reader.expect '='
        return some (← Reader.reference f (← Reader.groupNamed (← Reader.groupName ')')))
    else if ← Reader.passes '#' then do
      Reader.require ((← get).rest.contains (.plain ')'))
      Reader.skip (Token.afterComment ')')
      return none
    else if ← Reader.passes ':' then return some (← readEnclosed n f)
    else if ← Reader.passes '>' then return some (.atomic (← readEnclosed n f))
    else if ← Reader.passes '=' then return some (.lookAhead false (← readEnclosed n f))
    else if ← Reader.passes '!' then return some (.lookAhead true (← readEnclosed n f))
    else if ← Reader.passes '<' then do
      let negated ← Reader.passes '!'
      if !negated then Reader.expect '='
      return some (← Reader.lookBehind negated (← Reader.behind (readEnclosed n f)))
    else if ← Reader.passes '(' then do
      let group ← Reader.condition
      let yes ← readItems n f []
      let no ← if ← Reader.passes '|' then readItems n f [] else pure .empty
      Reader.expect ')'
      return some (.ifCaptured group yes no)
    else
      match ← Reader.lift FlagSetting.read with
      | .group on off => return some (← readEnclosed n (f.change on off))
      | .whole _ => Reader.fail

def readCapture : Nat → Flags → Option String → Reader Pattern
  | 0, _, _ => Reader.fail
  | n + 1, f, name? => do
    let group ← Reader.openGroup name?
    let p ← readEnclosed n f
    Reader.closeGroup group p
    return .capture group p

def readEnclosed : Nat → Flags → Reader Pattern
  | 0, _ => Reader.fail
  | n + 1, f => do
    let p ← readAlternatives n f
    Reader.expect ')'
    return p

end

/-- What is noticed only at the end: conditions about groups that there are none of, and what has
been refused. -/
def Progress.isComplete (s : Progress) : Bool :=
  s.rest.isEmpty && s.mentioned ≤ s.opened && !s.isRefused

def read (text : String) : Except ReadFault Pattern := do
  let ts := Token.ofText text.toList
  let (on, rest) := FlagSetting.readPreamble ts.length [] ts
  let flags := Flags.change {} on []
  let (p, s) ← (readAlternatives (6 * ts.length + 6) flags).run { rest }
  if FlagSetting.isContradictory on then throw .flagsIncompatible
  else if s.isComplete then return p
  else throw .malformed

end ScriptGlue.Pattern

import ScriptGlue.Json
import ScriptGlue.Table
import ScriptGlue.Text.Numeral

namespace ScriptGlue.Json

def isSpace (c : Char) : Bool := c == ' ' || c == '\t' || c == '\n' || c == '\r'

def skipSpace (s : List Char) : List Char := s.dropWhile isSpace

def simpleEscape? : Char → Option Char
  | '"' => some '"'
  | '\\' => some '\\'
  | '/' => some '/'
  | 'b' => some '\x08'
  | 'f' => some '\x0c'
  | 'n' => some '\n'
  | 'r' => some '\r'
  | 't' => some '\t'
  | _ => none

def stringUnits : List Char → Option (List Nat × List Char)
  | [] => none
  | '"' :: cs => some ([], cs)
  | '\\' :: 'u' :: a :: b :: c :: d :: cs => do
    let n ← Text.numeral? 16 [a, b, c, d]
    let (us, rest) ← stringUnits cs
    return (n :: us, rest)
  | '\\' :: e :: cs => do
    let c ← simpleEscape? e
    let (us, rest) ← stringUnits cs
    return (c.toNat :: us, rest)
  | c :: cs => do
    if c == '\\' || c.toNat < 32 then failure
    let (us, rest) ← stringUnits cs
    return (c.toNat :: us, rest)

def isSurrogate (u : Nat) : Bool := 0xD800 ≤ u && u < 0xE000

/-- Joins each pair of surrogates to the character it stands for. One that is left alone stands for
none. -/
def joinUnits? : List Nat → Option (List Char)
  | [] => some []
  | [u] => if isSurrogate u then none else some [Char.ofNat u]
  | u :: v :: us =>
    if 0xD800 ≤ u && u < 0xDC00 && 0xDC00 ≤ v && v < 0xE000 then
      (Char.ofNat (0x10000 + (u - 0xD800) * 0x400 + (v - 0xDC00)) :: ·) <$> joinUnits? us
    else if isSurrogate u then none
    else (Char.ofNat u :: ·) <$> joinUnits? (v :: us)

inductive ReadFault where
  | malformed
  | tooDeep
  | tooLong (digits : Nat)
  /-- A string has half of a character. The generator reads it and stops when it comes to write it;
  texts are made of whole characters here, so the reading stops. -/
  | loneSurrogate
  deriving DecidableEq

def ReadFault.message : ReadFault → String
  | .malformed | .loneSurrogate => ""
  | .tooDeep => "maximum recursion depth exceeded"
  | .tooLong digits =>
    "Exceeds the limit (4300 digits) for integer string conversion: value has " ++
      toString digits ++ " digits; use sys.set_int_max_str_digits() to increase the limit"

def readString (s : List Char) : Except ReadFault (String × List Char) := do
  let some (us, rest) := stringUnits s | throw .malformed
  let some cs := joinUnits? us | throw .loneSurrogate
  return (String.ofList cs, rest)

def digits (s : List Char) : List Char × List Char :=
  (s.takeWhile Char.isDigit, s.dropWhile Char.isDigit)

def fractionPart : List Char → List Char × List Char
  | '.' :: cs => if (digits cs).1.isEmpty then ([], '.' :: cs) else digits cs
  | s => ([], s)

def exponentPart (s : List Char) : Int × List Char :=
  match s with
  | e :: cs =>
    if e == 'e' || e == 'E' then
      let (negative, ds) := match cs with
        | '-' :: ds => (true, ds)
        | '+' :: ds => (false, ds)
        | _ => (false, cs)
      if (digits ds).1.isEmpty then (0, s)
      else
        let n : Int := Text.numeral 10 (digits ds).1
        (if negative then -n else n, (digits ds).2)
    else (0, s)
  | [] => (0, [])

def digitLimit : Nat := 4300

/-- How many lists and objects may stand inside one another. The generator calls itself for each of
them, and this is where the stack of its interpreter ends, in its usual setting. -/
def depthLimit : Nat := 985

def readNumber (s : List Char) : Except ReadFault (Json × List Char) :=
  let (negative, body) := match s with
    | '-' :: cs => (true, cs)
    | _ => (false, s)
  let whole := match body with
    | '0' :: cs => (['0'], cs)
    | _ => digits body
  if whole.1.isEmpty then .error .malformed
  else
    let (fraction, rest) := fractionPart whole.2
    let (power, after) := exponentPart rest
    let n := Text.numeral 10 (whole.1 ++ fraction)
    if after.length < whole.2.length then
      .ok (.float (.ofDecimal negative n (power - fraction.length)), after)
    else if digitLimit < whole.1.length then .error (.tooLong whole.1.length)
    else .ok (.integer (if negative then -n else n), after)

def keywords : List (String × Json) :=
  [("null", .null), ("true", .bool true), ("false", .bool false), ("NaN", .float .notANumber),
    ("Infinity", .float (.infinite false)), ("-Infinity", .float (.infinite true))]

def readKeyword? (s : List Char) : Option (Json × List Char) :=
  keywords.findSome? fun k => (k.1.toList.isPrefixOf? s).map (k.2, ·)

def readPlain (s : List Char) : Except ReadFault (Json × List Char) :=
  match readKeyword? s with
  | some r => .ok r
  | none => readNumber s

mutual

/-- Reads the value at the head of the text, with so many lists and objects inside one another at
most. Each step inside costs one unit of the first argument, so the length of the text suffices. -/
def readValue : Nat → Nat → List Char → Except ReadFault (Json × List Char)
  | 0, _, _ => .error .malformed
  | n + 1, depth, s =>
    match s, depth with
    | '"' :: cs, _ => do
      let (t, rest) ← readString cs
      return (.string t, rest)
    | '[' :: _, 0 => .error .tooDeep
    | '[' :: cs, depth + 1 =>
      match skipSpace cs with
      | ']' :: rest => .ok (.array [], rest)
      | rest => do
        let (vs, rest) ← readItems n depth rest
        return (.array vs, rest)
    | '\x7b' :: _, 0 => .error .tooDeep
    | '\x7b' :: cs, depth + 1 =>
      match skipSpace cs with
      | '\x7d' :: rest => .ok (.object [], rest)
      | rest => do
        let (ms, rest) ← readMembers n depth rest
        return (.object (Table.ofList ms).entries, rest)
    | _, _ => readPlain s

def readItems : Nat → Nat → List Char → Except ReadFault (List Json × List Char)
  | 0, _, _ => .error .malformed
  | n + 1, depth, s => do
    let (v, rest) ← readValue n depth s
    match skipSpace rest with
    | ']' :: rest => return ([v], rest)
    | ',' :: rest =>
      let (vs, rest) ← readItems n depth (skipSpace rest)
      return (v :: vs, rest)
    | _ => throw .malformed

def readMembers :
    Nat → Nat → List Char → Except ReadFault (List (String × Json) × List Char)
  | 0, _, _ => .error .malformed
  | n + 1, depth, s => do
    let '"' :: cs := s | throw .malformed
    let (k, rest) ← readString cs
    let ':' :: rest := skipSpace rest | throw .malformed
    let (v, rest) ← readValue n depth (skipSpace rest)
    match skipSpace rest with
    | '\x7d' :: rest => return ([(k, v)], rest)
    | ',' :: rest =>
      let (ms, rest) ← readMembers n depth (skipSpace rest)
      return ((k, v) :: ms, rest)
    | _ => throw .malformed

end

/-- The one document that a text holds. Where an object repeats a name, the last value counts, at
the place of the first. -/
def read (text : String) : Except ReadFault Json := do
  let s := text.toList
  let (v, rest) ← readValue (2 * s.length + 2) depthLimit (skipSpace s)
  if (skipSpace rest).isEmpty then return v else throw .malformed

end ScriptGlue.Json

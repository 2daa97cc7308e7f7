import ScriptGlue.Text.Case
import ScriptGlue.Text.Numeral
import ScriptGlue.Text.Word

namespace ScriptGlue.Log

/-- A number in a field: none, one that is written there, or one that is to be given with the
record, which no record does. -/
inductive Extent where
  | none
  | written (n : Nat)
  | given
  deriving DecidableEq

namespace Extent

def number : Extent → Nat
  | written n => n
  | _ => 0

def limit : Nat := 2147483647

def isUsable : Extent → Bool
  | none => true
  | written n => n ≤ limit
  | given => false

end Extent

/-- A field of a record, how wide it is to be, and in which way it is shown. -/
structure FormatField where
  key : String
  flags : List Char
  width : Extent
  precision? : Option Extent
  conversion : Char

inductive FormatPiece where
  | literal (c : Char)
  | field (f : FormatField)

namespace Format

def standard : String := "%(levelname)s: %(message)s"

def flagLetters : List Char := "#0+ -".toList

def skipExtent : List Char → List Char
  | '*' :: cs => cs
  | cs => cs.dropWhile Text.isDecimal

def skipPrecision : List Char → List Char
  | '.' :: cs => if (skipExtent cs).length < cs.length then skipExtent cs else '.' :: cs
  | cs => cs

def conversionLetters : List Char := "diouxefgcrsa%".toList

def looksLikeField : List Char → Bool
  | '(' :: cs =>
    let key := cs.takeWhile Text.isWord
    match cs.drop key.length with
    | ')' :: rest =>
      !key.isEmpty &&
        (skipPrecision (skipExtent (rest.dropWhile flagLetters.contains))).head?.any fun c =>
          (Text.caseVariants c).any conversionLetters.contains
    | _ => false
  | _ => false

def hasField : List Char → Bool
  | [] => false
  | c :: cs => (c == '%' && looksLikeField cs) || hasField cs

def isValid (format : String) : Bool := hasField format.toList

/-- The characters up to the parenthesis that closes the one that has been read, and what follows
it. Parentheses inside come in pairs. -/
def readKey? (depth : Nat) : List Char → Option (List Char × List Char)
  | [] => none
  | c :: cs =>
    if c == ')' && depth == 0 then some ([], cs)
    else
      let depth := if c == '(' then depth + 1 else if c == ')' then depth - 1 else depth
      (readKey? depth cs).map fun r => (c :: r.1, r.2)

def readExtent : List Char → Extent × List Char
  | '*' :: cs => (.given, cs)
  | cs =>
    let ds := cs.takeWhile Char.isDigit
    (if ds.isEmpty then .none else .written (Text.numeral 10 ds), cs.drop ds.length)

/-- Passes over one letter for the length of a number, which means nothing. -/
def skipLength : List Char → List Char
  | c :: cs => if c == 'h' || c == 'l' || c == 'L' then cs else c :: cs
  | [] => []

/-- The field whose percent sign has been read, and what follows it. A field has to name what it
shows. -/
def readField? : List Char → Option (FormatField × List Char)
  | '(' :: cs => do
    let (key, cs) ← readKey? 0 cs
    let flags := cs.takeWhile flagLetters.contains
    let (width, cs) := readExtent (cs.drop flags.length)
    let (precision?, cs) := match cs with
      | '.' :: cs => ((readExtent cs).map some id)
      | _ => (none, cs)
    let conversion :: rest := skipLength cs | none
    return ({ key := String.ofList key, flags, width, precision?, conversion }, rest)
  | _ => none

/-- Reads on after passing over `skip` characters; a percent sign is written twice. -/
def piecesFrom? : Nat → List Char → Option (List FormatPiece)
  | _, [] => some []
  | skip + 1, _ :: cs => piecesFrom? skip cs
  | 0, c :: cs => do
    if c == '%' then
      if cs.head? == some '%' then return .literal '%' :: (← piecesFrom? 1 cs)
      else
        let (f, rest) ← readField? cs
        return .field f :: (← piecesFrom? (cs.length - rest.length) cs)
    else return .literal c :: (← piecesFrom? 0 cs)

end Format

end ScriptGlue.Log

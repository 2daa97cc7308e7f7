import ScriptGlue.Text.Numeral
import ScriptGlue.Text.Word

namespace ScriptGlue

inductive ReplacementPiece where
  | character (c : Char)
  | wholeMatch

inductive ReplacementFault where
  | malformed
  | unknownGroup (name : String)
  | notAText
  deriving DecidableEq

namespace Replacement

def letterEscape? : Char → Option Char
  | 'a' => some '\x07'
  | 'b' => some '\x08'
  | 'f' => some '\x0c'
  | 'n' => some '\n'
  | 'r' => some '\r'
  | 't' => some '\t'
  | 'v' => some '\x0b'
  | '\\' => some '\\'
  | _ => none

/-- The piece that a group name stands for: only number zero names something. -/
def groupPiece (name : List Char) : Except ReplacementFault ReplacementPiece :=
  if Text.isIdentifier name then .error (.unknownGroup (String.ofList name))
  else if Text.wholeNumber? name == some 0 then .ok .wholeMatch
  else .error .malformed

/-- The pieces that the text starts with, and how many characters of it they take. A backslash
starts an escape: an octal number, a group between angle brackets, or a letter; before any other
character that is not a letter of ASCII it stands for itself. -/
def pieceAt : List Char → Except ReplacementFault (List ReplacementPiece × Nat)
  | [] => .ok ([], 1)
  | ['\\'] => .error .malformed
  | '\\' :: 'g' :: '<' :: rest =>
    let name := rest.takeWhile (· != '>')
    if rest.length ≤ name.length || rest.drop (name.length + 1) == ['\\'] then .error .malformed
    else do return ([← groupPiece name], name.length + 4)
  | '\\' :: '0' :: rest =>
    let ds := (rest.takeWhile (Text.isDigitOf 8)).take 2
    .ok ([.character (Char.ofNat (Text.numeral 8 ds))], ds.length + 2)
  | '\\' :: c :: rest =>
    if c.isDigit then
      let ds := (rest.takeWhile (Text.isDigitOf 8)).take 2
      if Text.isDigitOf 8 c && ds.length == 2 && Text.numeral 8 (c :: ds) ≤ 255 then
        .ok ([.character (Char.ofNat (Text.numeral 8 (c :: ds)))], 4)
      else .error .malformed
    else
      match letterEscape? c with
      | some e => .ok ([.character e], 2)
      | none =>
        if c.isAlpha then .error .malformed else .ok ([.character '\\', .character c], 2)
  | c :: _ => .ok ([.character c], 1)

def readFrom : Nat → List Char → Except ReplacementFault (List ReplacementPiece)
  | _, [] => .ok []
  | skip + 1, _ :: cs => readFrom skip cs
  | 0, c :: cs => do
    let (ps, length) ← pieceAt (c :: cs)
    return ps ++ (← readFrom (length - 1) cs)

def read (text : String) : Except ReplacementFault (List ReplacementPiece) := readFrom 0 text.toList

def expand (matched : List Char) (pieces : List ReplacementPiece) : List Char :=
  pieces.flatMap fun
    | .character c => [c]
    | .wholeMatch => matched

end Replacement

end ScriptGlue

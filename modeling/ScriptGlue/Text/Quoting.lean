import ScriptGlue.Text.Category
import ScriptGlue.Text.Find
import ScriptGlue.Text.Numeral

namespace ScriptGlue.Text

def codeEscape (n : Nat) : List Char :=
  if n < 0x100 then '\\' :: 'x' :: lastDigits 16 2 n
  else if n < 0x10000 then '\\' :: 'u' :: lastDigits 16 4 n
  else '\\' :: 'U' :: lastDigits 16 8 n

/-- A character that can not be seen is shown by an escape, as are the backslash and the quote in
use. -/
def quotedChar (quote c : Char) : List Char :=
  if c == quote || c == '\\' then ['\\', c]
  else if c == '\n' then ['\\', 'n']
  else if c == '\r' then ['\\', 'r']
  else if c == '\t' then ['\\', 't']
  else if isPrintable c then [c]
  else codeEscape c.toNat

/-- Single quotes, unless the text has a single quote and no double quote. -/
def quoted (s : String) : String :=
  let quote := if s.toList.contains '\'' && !s.toList.contains '"' then '"' else '\''
  String.ofList (quote :: s.toList.flatMap (quotedChar quote) ++ [quote])

def quotedASCII (s : String) : String :=
  String.ofList <| (quoted s).toList.flatMap fun c =>
    if c.toNat < 128 then [c] else codeEscape c.toNat

namespace ShellWord

inductive Unfinished where
  | quotation
  | escape

def Unfinished.message : Unfinished → String
  | .quotation => "No closing quotation"
  | .escape => "No escaped character"

inductive Mode where
  | between
  | inWord
  | quoted (mark : Char)
  | escaped (back : Option Char)

def isSeparator (c : Char) : Bool := c == ' ' || c == '\t' || c == '\r' || c == '\n'

/-- Reads on in `mode` with `word` held in reverse. `between` holds no word; a word that was quoted
counts even when it is empty. An escape inside quotes keeps its backslash unless it stands before
the quote or another backslash. -/
def read : Mode → List Char → List Char → Except Unfinished (List (List Char))
  | .between, _, [] => .ok []
  | .inWord, word, [] => .ok [word.reverse]
  | .quoted _, _, [] => .error .quotation
  | .escaped _, _, [] => .error .escape
  | .between, word, c :: cs =>
    if isSeparator c then read .between word cs
    else if c == '\\' then read (.escaped none) [] cs
    else if c == '\'' || c == '"' then read (.quoted c) [] cs
    else read .inWord [c] cs
  | .inWord, word, c :: cs =>
    if isSeparator c then return word.reverse :: (← read .between [] cs)
    else if c == '\\' then read (.escaped none) word cs
    else if c == '\'' || c == '"' then read (.quoted c) word cs
    else read .inWord (c :: word) cs
  | .quoted mark, word, c :: cs =>
    if c == mark then read .inWord word cs
    else if c == '\\' && mark == '"' then read (.escaped (some mark)) word cs
    else read (.quoted mark) (c :: word) cs
  | .escaped none, word, c :: cs => read .inWord (c :: word) cs
  | .escaped (some mark), word, c :: cs =>
    if c == '\\' || c == mark then read (.quoted mark) (c :: word) cs
    else read (.quoted mark) (c :: '\\' :: word) cs

def split (line : String) : Except Unfinished (List String) :=
  (read .between [] line.toList).map (·.map String.ofList)

def isSafe (c : Char) : Bool := c.isAlphanum || "_@%+=:,./-".toList.contains c

/-- A word of safe characters stands for itself; any other one is put between single quotes. -/
def quote (s : String) : String :=
  if s.isEmpty then "''"
  else if s.toList.all isSafe then s
  else "'" ++ String.ofList (replaceAll "'" "'\"'\"'" s.toList) ++ "'"

end ShellWord

end ScriptGlue.Text

import ScriptGlue.Binary64.Text
import ScriptGlue.Json
import ScriptGlue.Text.Numeral

namespace ScriptGlue.Json

def unitEscape (n : Nat) : List Char := '\\' :: 'u' :: Text.lastDigits 16 4 n

/-- A character inside a string. With `ascii`, a character beyond ASCII becomes the escape of its
one or two code units. -/
def escapedChar (ascii : Bool) (c : Char) : List Char :=
  let n := c.toNat
  if c == '"' then ['\\', '"']
  else if c == '\\' then ['\\', '\\']
  else if c == '\n' then ['\\', 'n']
  else if c == '\r' then ['\\', 'r']
  else if c == '\t' then ['\\', 't']
  else if c == '\x08' then ['\\', 'b']
  else if c == '\x0c' then ['\\', 'f']
  else if n < 32 then unitEscape n
  else if n < 128 || !ascii then [c]
  else if n < 0x10000 then unitEscape n
  else unitEscape (0xD800 + (n - 0x10000) / 0x400) ++ unitEscape (0xDC00 + (n - 0x10000) % 0x400)

def quotedString (ascii : Bool) (s : String) : String :=
  String.ofList ('"' :: s.toList.flatMap (escapedChar ascii) ++ ['"'])

/-- A binary number. Those that are not finite have names that JSON itself does not know. -/
def floatText (x : Binary64) : String := x.textWith "Infinity" "NaN"

mutual

def compact : Json → String
  | .null => "null"
  | .bool b => if b then "true" else "false"
  | .integer n => toString n
  | .float x => floatText x
  | .string s => quotedString false s
  | .array xs => "[" ++ ",".intercalate (compactItems xs) ++ "]"
  | .object ms => "\x7b" ++ ",".intercalate (compactMembers ms) ++ "\x7d"

def compactItems : List Json → List String
  | [] => []
  | x :: xs => compact x :: compactItems xs

def compactMembers : List (String × Json) → List String
  | [] => []
  | (k, v) :: ms => (quotedString false k ++ ":" ++ compact v) :: compactMembers ms

end

def newLine (level : Nat) : String := "\n" ++ String.ofList (List.replicate (2 * level) ' ')

def block (opening closing : String) (level : Nat) (items : List String) : String :=
  if items.isEmpty then opening ++ closing
  else
    opening ++ newLine (level + 1) ++ ("," ++ newLine (level + 1)).intercalate items ++
      newLine level ++ closing

mutual

def indented (level : Nat) : Json → String
  | .null => "null"
  | .bool b => if b then "true" else "false"
  | .integer n => toString n
  | .float x => floatText x
  | .string s => quotedString true s
  | .array xs => block "[" "]" level (indentedItems (level + 1) xs)
  | .object ms => block "\x7b" "\x7d" level (indentedMembers (level + 1) ms)

def indentedItems (level : Nat) : List Json → List String
  | [] => []
  | x :: xs => indented level x :: indentedItems level xs

def indentedMembers (level : Nat) : List (String × Json) → List String
  | [] => []
  | (k, v) :: ms =>
    (quotedString true k ++ ": " ++ indented level v) :: indentedMembers level ms

end

def pretty (j : Json) : String := indented 0 j

end ScriptGlue.Json

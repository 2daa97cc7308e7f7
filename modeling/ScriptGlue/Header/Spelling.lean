import ScriptGlue.Text.Word

namespace ScriptGlue.Spelling

open Text

/-- How many characters the qualifier at the head of the text takes: the first of the namespaces
that stands there with a scope operator after it. -/
def qualifierLength? (namespaces : List (List Char)) (s : List Char) : Option Nat :=
  namespaces.findSome? fun n =>
    if (n ++ [':', ':']).isPrefixOf s then some (n.length + 2) else none

/-- Takes out the qualifiers that begin at a word boundary. `left` is the character before the text
and `skip` counts the characters of the last qualifier that are still to be passed over. -/
def stripFrom (namespaces : List (List Char)) : Nat → Option Char → List Char → List Char
  | _, _, [] => []
  | skip + 1, _, c :: cs => stripFrom namespaces skip (some c) cs
  | 0, left, c :: cs =>
    match qualifierLength? namespaces (c :: cs) with
    | some n =>
      if isBoundary left (some c) then stripFrom namespaces (n - 1) (some c) cs
      else c :: stripFrom namespaces 0 (some c) cs
    | none => c :: stripFrom namespaces 0 (some c) cs

/-- With the namespace `Urho3D`, `Urho3D::Node` becomes `Node`. Empty names qualify nothing. -/
def strip (namespaces : List String) (spelling : String) : String :=
  String.ofList
    (stripFrom ((namespaces.map String.toList).filter (!·.isEmpty)) 0 none spelling.toList)

/-- Joins tokens after `left`, the last character so far. A space is put only where a word would
otherwise grow into the next one; there an empty token can not be judged. -/
def joinFrom (left : Option Char) : List (List Char) → Option (List Char)
  | [] => some []
  | tok :: toks => do
    let gap ←
      if left.any isWord then
        match tok.head? with
        | none => none
        | some c => some (if isWord c then [' '] else [])
      else some []
    return gap ++ tok ++ (← joinFrom (tok.getLast?.or left) toks)

def joinTokens? (tokens : List String) : Option String :=
  (joinFrom none (tokens.map String.toList)).map String.ofList

/-- The tokens of a parameter after its equals sign, joined; an empty text is no default value. The
outer answer is lacking where the tokens can not be joined. -/
def defaultValue? (tokens : List String) : Option (Option String) :=
  match tokens.dropWhile (· != "=") with
  | [] => some none
  | _ :: value => (joinTokens? value).map fun s => if s.isEmpty then none else some s

end ScriptGlue.Spelling

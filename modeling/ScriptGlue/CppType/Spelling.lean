import ScriptGlue.CppType
import ScriptGlue.Text.Word

namespace ScriptGlue.CppType

open Text

/-- Takes the declarator off the end of a spelling, which is given in reverse. What is left comes
first, still in reverse; then the operators in their order. A `const` belongs to the declarator when
an operator stands before it: there it qualifies the pointer and not what it points to. -/
def splitDeclarator : List Char → List Char → List Char × List Char
  | 't' :: 's' :: 'n' :: 'o' :: 'c' :: rest, operators =>
    if !rest.head?.any isWord &&
        (rest.dropWhile isBlank).head?.any (fun c => c == '*' || c == '&') then
      splitDeclarator rest operators
    else ('t' :: 's' :: 'n' :: 'o' :: 'c' :: rest, operators)
  | c :: rest, operators =>
    if c == '*' || c == '&' then splitDeclarator rest (c :: operators)
    else if c == ' ' || c == '\t' then splitDeclarator rest operators
    else (c :: rest, operators)
  | [], operators => ([], operators)

/-- Cuts at the white space outside of template brackets. `word` holds the current word in reverse,
and `depth` counts the brackets opened less those closed. -/
def topLevelWords (depth : Int) (word : List Char) : List Char → List (List Char)
  | [] => if word.isEmpty then [] else [word.reverse]
  | c :: cs =>
    let depth := if c == '<' then depth + 1 else if c == '>' then depth - 1 else depth
    if depth == 0 && isBlank c then
      if word.isEmpty then topLevelWords depth [] cs else word.reverse :: topLevelWords depth [] cs
    else topLevelWords depth (c :: word) cs

def droppedWords : List (List Char) :=
  ["const", "volatile", "class", "struct", "enum", "typename"].map String.toList

/-- The name that the words of a base type make, `void` where none is left. -/
def nameOfWords (ws : List (List Char)) : List Char :=
  let name := normalize ([' '].intercalate (ws.filter (!droppedWords.contains ·)))
  if name.isEmpty then "void".toList else name

def ofChars (s : List Char) : CppType :=
  let (head, operators) := splitDeclarator (s.reverse.dropWhile isBlank) []
  let ws := topLevelWords 0 [] head.reverse
  let stars := operators.count '*'
  let isRvalue := ['&', '&'].isSuffixOf operators
  let isReference := ['&'].isSuffixOf operators && !isRvalue
  { name := String.ofList (nameOfWords ws)
    isConst := ws.contains "const".toList
    isReference
    isPointer := stars > 0
    isRvalueReference := isRvalue
    isDoublePointer := stars ≥ 2
    isReferenceToPointer := isReference && stars > 0 }

/-- Reads a spelling such as `const Vector<String>&`, `Node*` or `char const*`. Every text has a
reading, and the empty one is `void`. -/
def ofSpelling (s : String) : CppType := ofChars s.toList

end ScriptGlue.CppType

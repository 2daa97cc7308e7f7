import ScriptGlue.Text.Word

namespace ScriptGlue

/-- A base type with its qualifiers. The name carries the template arguments and no qualifier of the
whole type; the flags are independent of one another, because a description may give any of them. -/
structure CppType where
  name : String
  isConst : Bool := false
  isReference : Bool := false
  isPointer : Bool := false
  isRvalueReference : Bool := false
  isDoublePointer : Bool := false
  isReferenceToPointer : Bool := false
  deriving DecidableEq, Inhabited

namespace CppType

def plain (name : String) : CppType := { name }

def operators (t : CppType) : String :=
  (if t.isDoublePointer then "**" else if t.isPointer then "*" else "") ++
    (if t.isRvalueReference then "&&" else if t.isReference then "&" else "")

def spelling (t : CppType) : String :=
  (if t.isConst then "const " else "") ++ t.name ++ t.operators

end CppType

inductive Usage where
  | parameter
  | result
  deriving DecidableEq

namespace CppType

open Text

/-- The characters that need no space beside them. -/
def isMark (c : Char) : Bool := c == '<' || c == '>' || c == ',' || c == '*' || c == '&'

/-- Every run of white space becomes one space; `inRun` tells that the run has been written. -/
def collapse (inRun : Bool) : List Char → List Char
  | [] => []
  | c :: cs =>
    if isBlank c then if inRun then collapse true cs else ' ' :: collapse true cs
    else c :: collapse false cs

/-- Drops the white space after a mark; `afterMark` tells that a mark stands before it. -/
def dropAfterMark (afterMark : Bool) : List Char → List Char
  | [] => []
  | c :: cs =>
    if isBlank c && afterMark then dropAfterMark true cs
    else c :: dropAfterMark (isMark c) cs

def tighten (s : List Char) : List Char :=
  (dropAfterMark false (dropAfterMark false s).reverse).reverse

def normalize (s : List Char) : List Char := tighten (collapse false (trim s))

/-- `Vector< SharedPtr< Node > >` becomes `Vector<SharedPtr<Node>>`. -/
def normalizeName (name : String) : String := String.ofList (normalize name.toList)

end CppType

end ScriptGlue

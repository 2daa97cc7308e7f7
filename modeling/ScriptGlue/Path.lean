namespace ScriptGlue

/-- Two paths that differ only in repeated slashes, a slash at the end or components `.` are one; a
component `..` stays until the path is resolved. -/
structure Path where
  slashes : Nat := 0
  parts : List String := []
  deriving DecidableEq, Inhabited

namespace Path

/-- Exactly two slashes at the head are a root of their own, any other number is the one root. -/
def ofString (s : String) : Path where
  slashes := match (s.toList.takeWhile (· == '/')).length with
    | 0 => 0
    | 2 => 2
    | _ => 1
  parts := ((s.toList.splitOn '/').map String.ofList).filter fun p =>
    !p.isEmpty && p != "."

def text (p : Path) : String :=
  if p.slashes == 0 && p.parts.isEmpty then "."
  else String.ofList (List.replicate p.slashes '/') ++ "/".intercalate p.parts

def isAbsolute (p : Path) : Bool := p.slashes != 0

def join (p q : Path) : Path :=
  if q.isAbsolute then q else { p with parts := p.parts ++ q.parts }

def child (p : Path) (name : String) : Path := p.join (ofString name)

def parent (p : Path) : Path := { p with parts := p.parts.dropLast }

def name (p : Path) : String := p.parts.getLast?.getD ""

def hasNullCharacter (p : Path) : Bool := p.parts.any (·.contains '\x00')

/-- The ending of a file name from its last dot on. A dot at either end of the name starts no
ending. -/
def suffixOf (name : String) : String :=
  let tail := name.toList.reverse.takeWhile (· != '.')
  let stem := name.toList.reverse.drop (tail.length + 1)
  if tail.isEmpty || stem.isEmpty then "" else String.ofList ('.' :: tail.reverse)

def climb (parts : List String) : List String :=
  parts.foldl (fun done p => if p == ".." then done.dropLast else done ++ [p]) []

/-- The absolute path without components `..` that `p` names when it is read from the directory
`here`. -/
def resolve (p here : Path) : Path := ⟨1, climb (here.join p).parts⟩

def partsLe : List String → List String → Bool
  | [], _ => true
  | _ :: _, [] => false
  | a :: as, b :: bs => a < b || (a == b && partsLe as bs)

end Path

end ScriptGlue

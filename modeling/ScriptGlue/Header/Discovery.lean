import ScriptGlue.Run
import ScriptGlue.Text.Word

namespace ScriptGlue

namespace Discovery

def headerSuffixes : List String := [".h", ".hpp", ".hh", ".hxx"]

def isHeaderName (name : String) : Bool := headerSuffixes.contains (Path.suffixOf name).toLower

/-- Everything below a directory that is named like a header, in the order of its path. -/
def headersBelow (t : FileTree) (l : Location) : List Location :=
  ((t.below l).filter fun e => isHeaderName (e.getLast?.getD "")).mergeSort Path.partsLe

def expand? (t : FileTree) (here : Path) (path : String) : Option (List Location) :=
  match t.find? (here.join (.ofString path)) with
  | some (l, .directory) => some (headersBelow t l)
  | some (l, .file _) => if isHeaderName (Path.ofString path).name then some [l] else none
  | none => none

def missing (t : FileTree) (here : Path) (paths : List String) : List String :=
  paths.filter fun p => (expand? t here p).isNone

def locations (t : FileTree) (here : Path) (paths : List String) : List Location :=
  (paths.flatMap fun p => (expand? t here p).getD []).eraseDups

/-- No question about the path has an answer, since it has a name that is too long. -/
def isUnanswerable (t : FileTree) (here : Path) (path : String) : Bool :=
  match t.locate (here.join (.ofString path)) with
  | .error .nameTooLong => true
  | _ => false

/-- The headers of all paths; a path that stands for none of them is told about. -/
def headers (t : FileTree) (here : Path) (paths : List String) : Run (List Path) := do
  let answered := paths.takeWhile fun p => !isUnanswerable t here p
  Run.tellAll ((missing t here answered).map .pathMissing)
  if paths.any (isUnanswerable t here) then Run.stop (.file .nameTooLong)
  else return (locations t here paths).map fun l => ⟨1, l⟩

end Discovery

/-- The words of the line as a shell splits it. A line that no shell can split is cut at white
space, and the user is told. -/
def splitParserArguments (line : String) : Run (List String) :=
  match Text.ShellWord.split line with
  | .ok arguments => return arguments
  | .error cause => do
    Run.tell (.naiveSplit cause)
    return (Text.words line.toList).map String.ofList

end ScriptGlue

import ScriptGlue.Json
import ScriptGlue.Run

namespace ScriptGlue

structure Destination where
  directory : Path
  templates? : Option Path := none
  fileName : String := "GeneratedGlue.cpp"
  dryRun : Bool := false

namespace Destination

def sourcePath (d : Destination) : Path := d.directory.child d.fileName

def manifestPath (d : Destination) : Path := d.directory.child "manifest.json"

def toJson (d : Destination) : Json := .object [
  ("output_dir", .string d.directory.text),
  ("templates_dir", .ofOption (d.templates?.map (·.text))),
  ("output_file", .string d.fileName),
  ("dry_run", .bool d.dryRun)]

end Destination

namespace FileTree

def writeTold (t : FileTree) (p : Path) (content : String) (onlyIfChanged : Bool := true) :
    Run (FileTree × Bool) := do
  let (t, written) := t.write p content onlyIfChanged
  let changed ← Run.ofExcept .file written
  Run.tell (if changed then .written p else .unchanged p)
  return (t, changed)

def deliver (t : FileTree) (dryRun : Bool) (p : Path) (content : String) : Run FileTree := do
  if dryRun then
    Run.tell (.wouldWrite p content.utf8ByteSize)
    return t
  else return (← t.writeTold p content).1

end FileTree

/-- A tree of files of which one may be the log of the run that works on it. What the run tells
stands in that file at once, so a template or a catalog that is read from it has the lines told so
far. -/
structure LoggedTree where
  tree : FileTree
  /-- Where the log is, as long as no other file has taken its place. -/
  log? : Option Location := none
  logText : List Notice → String := fun _ => ""

namespace LoggedTree

def view (s : LoggedTree) (told : List Notice) : FileTree :=
  match s.log? with
  | some l => s.tree.put l (.file (s.logText told))
  | none => s.tree

/-- The tree after a step that found it as `before` and left it as `after`. -/
def moved (s : LoggedTree) (before after : FileTree) : LoggedTree :=
  { s with tree := after, log? := s.log?.filter fun l => after.text? l == before.text? l }

def deliver (s : LoggedTree) (told : List Notice) (dryRun : Bool) (p : Path) (content : String) :
    Run LoggedTree := do
  return s.moved (s.view told) (← (s.view told).deliver dryRun p content)

/-- The tree after an attempt to deliver a text. One that fails may have made directories. -/
def attempted (s : LoggedTree) (told : List Notice) (dryRun : Bool) (p : Path) (content : String) :
    LoggedTree :=
  if dryRun then s else s.moved (s.view told) ((s.view told).write p content).1

@[simp] theorem view_of_log?_eq_none {s : LoggedTree} (h : s.log? = none) (told : List Notice) :
    s.view told = s.tree := by
  simp only [view, h]

end LoggedTree

end ScriptGlue

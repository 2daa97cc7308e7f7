import ScriptGlue.CommandLine.Session

namespace ScriptGlue.Terminal

/-- One that is no text counts as empty. -/
def textOf (path : String) : IO String := do
  try IO.FS.readFile path catch _ => return ""

/-- Copies a file into the tree, or a directory with all that is below it. What can not be reached
is left out. -/
partial def copyItem (t : FileTree) (p : Path) : IO FileTree := do
  try
    let q ← IO.FS.realPath p.text
    if ← q.isDir then
      (← q.readDir).foldlM (fun t e => copyItem t (p.child e.fileName)) (t.put p.parts .directory)
    else if ← q.pathExists then
      return t.put p.parts (.file (← textOf q.toString))
    else return t
  catch _ => return t

def copyAncestors (t : FileTree) (p : Path) : IO FileTree :=
  (List.range p.parts.length).tail.foldlM (fun t n => do
    let l := p.parts.take n
    if (t.item? l).isSome then return t
    try
      let q ← IO.FS.realPath (Path.mk 1 l).text
      if ← q.isDir then return t.put l .directory
      else if ← q.pathExists then return t.put l (.file "")
      else return t
    catch _ => return t) t

def copyPaths (ps : List Path) : IO FileTree :=
  ps.foldlM (fun t p => do copyItem (← copyAncestors t p) p) {}

def replaceFile (p : Path) (text : String) : IO Unit := do
  let beside := (p.parent.child ("." ++ p.name ++ ".tmp")).text
  IO.FS.writeFile beside text
  IO.FS.rename beside p.text

/-- Brings the disk from one tree to another that has all of its items and maybe more. -/
def writeBack (before after : FileTree) : IO Unit :=
  after.entries.forM fun e => do
    if before.item? e.1 != some e.2 then
      match e.2 with
      | .directory => IO.FS.createDirAll (Path.mk 1 e.1).text
      | .file text => replaceFile ⟨1, e.1⟩ text

/-- This program is built without a parser for C++, so it works from catalogs. -/
def noParser : HeaderParser := { loadError? := some "no parser for C++ is linked in" }

def surroundings (here : Path) : IO Surroundings := do
  return { environment := [("executable", toString (← IO.appPath)), ("cwd", here.text)] }

def runSession (here : Path) (o : CommandLine.Options) (arguments : List String) : IO UInt32 := do
  let tree ← copyPaths (o.footprint here)
  let w : CommandLine.World :=
    { tree, here, parser := noParser, surroundings := ← surroundings here }
  match CommandLine.run w arguments with
  | .usage exitCode => return exitCode.toUInt32
  | .invalidLogFormat format => do
    IO.eprintln ("invalid log format: " ++ format)
    return 1
  | .unusablePath f => do
    let name := if o.logFile.isEmpty then o.outputDirectory else o.logFile
    IO.eprintln ("can not use " ++ name ++ if f.message.isEmpty then "" else ": " ++ f.message)
    return 1
  | .session s log => do
    writeBack tree s.tree
    IO.eprint log
    match s.fault? with
    | some f => if !f.message.isEmpty then IO.eprintln f.message
    | none => pure ()
    return s.exitCode.toUInt32

end ScriptGlue.Terminal

open ScriptGlue in
def main (arguments : List String) : IO UInt32 := do
  match CommandLine.Request.ofArguments arguments with
  | .help => do
    IO.print CommandLine.usageText
    return 0
  | .misuse => do
    IO.eprint CommandLine.usageText
    return 2
  | .run o =>
    Terminal.runSession (.ofString (toString (← IO.currentDir))) o arguments

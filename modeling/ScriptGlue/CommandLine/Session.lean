import ScriptGlue.Catalog.Document
import ScriptGlue.CommandLine.Options
import ScriptGlue.Destination
import ScriptGlue.Glue
import ScriptGlue.Header.Collection
import ScriptGlue.Header.Discovery
import ScriptGlue.Json.Printer
import ScriptGlue.Log.Rendering
import ScriptGlue.Report
import ScriptGlue.Text.Quoting

namespace ScriptGlue

structure Surroundings where
  version : String := "unknown"
  environment : List (String × String) := []

structure Manifest where
  arguments : List String
  surroundings : Surroundings := {}
  destination : Destination
  report : Json
  catalog? : Option Catalog := none

namespace Manifest

def generatorName : String := "asbinding-generator"

def commandLine (arguments : List String) : String :=
  " ".intercalate (arguments.map Text.ShellWord.quote)

def toJson (m : Manifest) : Json := .object ([
  ("generator", .object [
    ("name", .string generatorName),
    ("version", .string m.surroundings.version)]),
  ("invocation", .object [
    ("argv", .strings m.arguments),
    ("command_line", .string (commandLine m.arguments))]),
  ("environment", .object (m.surroundings.environment.map fun e => (e.1, .string e.2))),
  ("context", m.destination.toJson),
  ("report", m.report)] ++
  m.catalog?.toList.map fun c => ("catalog", c.toJson))

def text (m : Manifest) : String := m.toJson.pretty

end Manifest

namespace CommandLine

structure World where
  tree : FileTree
  here : Path
  parser : HeaderParser := {}
  engine : TemplateEngine := .plain
  surroundings : Surroundings := {}

structure Session where
  tree : FileTree
  trace : List TraceItem
  exitCode : Nat
  /-- What ended the run, if it did not come to its end. -/
  fault? : Option Fault := none

namespace Session

def notices (s : Session) : List Notice := (⟨s.trace, .ok ()⟩ : Run Unit).notices

def calls (s : Session) : List ParserCall := (⟨s.trace, .ok ()⟩ : Run Unit).calls

end Session

def destination (w : World) (o : Options) : Destination where
  directory := (Path.ofString o.outputDirectory).resolve w.here
  templates? :=
    if o.templatesDirectory.isEmpty then none
    else some ((Path.ofString o.templatesDirectory).resolve w.here)
  fileName := o.outputFile
  dryRun := o.dryRun

/-- The files below a directory of templates, under their paths from there. -/
def templateFiles (t : FileTree) (l : Location) : List (List String × String) :=
  (t.below l).filterMap fun e => (t.text? e).map (e.drop l.length, ·)

/-- The templates of the user, if the directory for them is there, as they are in a later tree. -/
def library (e : TemplateEngine) (t : FileTree) (d : Destination) :
    Run (FileTree → TemplateLibrary) := do
  match d.templates? with
  | none => return fun _ => .packaged
  | some p =>
    if t.locate p matches .error .nameTooLong then Run.stop (.file .nameTooLong)
    else if t.isDirectory p.parts then
      return fun later => { overrides := templateFiles later p.parts, engine := e }
    else do
      Run.tell (.templatesMissing p)
      return fun _ => .packaged

def exclusion (o : Options) : Run (String → Bool) :=
  if o.excludePattern.isEmpty then return fun _ => false
  else return (← Run.ofExcept .pattern (Pattern.read o.excludePattern)).occursIn

def rules (w : World) (o : Options) (isExcluded : String → Bool) : CollectionRules where
  here := w.here
  filters := o.includeFilters.map fun f => ((Path.ofString f).resolve w.here).text
  isExcluded
  namespaces := if o.strippedNamespaces.isEmpty then ["Urho3D"] else o.strippedNamespaces

/-- The inputs from a catalog file if one is named, and from headers otherwise; none if there are no
headers. -/
def gather (w : World) (t : FileTree) (o : Options) : Run (Option Inputs) := do
  if !o.catalogFile.isEmpty then
    return some (← Inputs.load .standard t w.here (.ofString o.catalogFile))
  else
    let headers ← Discovery.headers t w.here o.headers
    if headers.isEmpty then return none
    else
      let arguments ← splitParserArguments o.parserArguments
      let isExcluded ← exclusion o
      return some (← Collection.collect w.parser (rules w o isExcluded) .standard arguments headers)

def glueOptions (o : Options) : GlueOptions where
  registerFunction := o.registerFunction
  bindFields := !o.noFields

/-- Generates the source and writes it, after the given notices have been told. -/
def emit (s : LoggedTree) (told : List Notice) (library : FileTree → TemplateLibrary)
    (g : GlueOptions) (d : Destination) (i : Inputs) : Run (LoggedTree × Report) := do
  let generated := Glue.generate (fun more => library (s.view (told ++ more))) g i
  let glue ← generated
  let s ← s.deliver (told ++ generated.notices) d.dryRun d.sourcePath glue.text
  Run.tell (.bound glue.report.bound.length glue.report.skipped.length d.sourcePath)
  return (s, glue.report)

def leftByEmission (s : LoggedTree) (told : List Notice) (library : FileTree → TemplateLibrary)
    (g : GlueOptions) (d : Destination) (i : Inputs) : LoggedTree :=
  let generated := Glue.generate (fun more => library (s.view (told ++ more))) g i
  match generated.outcome with
  | .ok glue => s.attempted (told ++ generated.notices) d.dryRun d.sourcePath glue.text
  | .error _ => s

def manifest (w : World) (arguments : List String) (d : Destination) (i : Inputs) (r : Report) :
    Manifest where
  arguments := Manifest.generatorName :: arguments
  surroundings := w.surroundings
  destination := d
  report := r.toJson
  catalog? := some i.catalog

def emitManifest (s : LoggedTree) (told : List Notice) (d : Destination) (m : Manifest) :
    Run LoggedTree := do
  let s ← s.deliver told d.dryRun d.manifestPath m.text
  Run.tell (.manifestDone d.manifestPath)
  return s

def noticesOf (trace : List TraceItem) : List Notice := (⟨trace, .ok ()⟩ : Run Unit).notices

/-- Ends a run in the tree that has been reached. The log has all that has been told. -/
def finish (s : LoggedTree) (before : List TraceItem) (last : List Notice) (exitCode : Nat)
    (fault? : Option Fault := none) : Session :=
  let trace := before ++ last.map .notice
  ⟨s.view (noticesOf trace), trace, exitCode, fault?⟩

def runManifest (w : World) (arguments : List String) (o : Options) (d : Destination) (i : Inputs)
    (s : LoggedTree) (r : Report) (before : List TraceItem) : Session :=
  let m := manifest w arguments d i r
  let written : Run LoggedTree :=
    if o.noManifest then return s else emitManifest s (noticesOf before) d m
  let trace := before ++ written.trace
  match written.outcome with
  | .error f =>
    let left := s.attempted (noticesOf before) d.dryRun d.manifestPath m.text
    finish left trace [.manifestFailed] 5 f
  | .ok s => finish s trace (if o.dryRun then [.dryRunDone] else []) 0

def runEmission (w : World) (arguments : List String) (o : Options) (s : LoggedTree)
    (l : FileTree → TemplateLibrary) (i : Inputs) (before : List TraceItem) : Session :=
  let d := destination w o
  let emitted := emit s (noticesOf before) l (glueOptions o) d i
  let trace := before ++ emitted.trace
  match emitted.outcome with
  | .error f =>
    let left := leftByEmission s (noticesOf before) l (glueOptions o) d i
    finish left trace [.generatingFailed] 4 f
  | .ok (s, r) => runManifest w arguments o d i s r trace

/-- Runs with options that have been read. The tree is that after a log file has been opened. -/
def runOptions (w : World) (arguments : List String) (o : Options) (s : LoggedTree) : Session :=
  let found := library w.engine s.tree (destination w o)
  match found.outcome with
  | .error f => finish s found.trace [.templatingFailed] 1 f
  | .ok l =>
    if o.catalogFile.isEmpty && o.headers.isEmpty then finish s found.trace [.nothingToDo] 2
    else
      let gathered := gather w (s.view found.notices) o
      let trace := found.trace ++ gathered.trace
      match gathered.outcome with
      | .error f => finish s trace [.collectingFailed] 3 f
      | .ok none => finish s trace [.noHeaders] 2
      | .ok (some i) => runEmission w arguments o s l i trace

def terminalText (o : Options) (notices : List Notice) : String :=
  Log.renderStrictly o.threshold o.logFormat (notices.map (·.record))

def logText (o : Options) (notices : List Notice) : String :=
  Log.render o.threshold o.logFormat (notices.map (·.record))

def logPath (w : World) (o : Options) : Path := (Path.ofString o.logFile).resolve w.here

def openLog (w : World) (o : Options) : Except FileFault LoggedTree :=
  if o.logFile.isEmpty then .ok { tree := w.tree }
  else do
    let l ← w.tree.locate (logPath w o)
    if w.tree.isDirectory l then throw .isADirectory
    return { tree := w.tree, log? := some l, logText := logText o }

/-- The paths that a run with the options may look at or write to, each with all that is below
it. -/
def Options.footprint (o : Options) (here : Path) : List Path :=
  let d := destination { tree := {}, here } o
  let read := if o.catalogFile.isEmpty then o.headers else [o.catalogFile]
  let log := if o.logFile.isEmpty then [] else [o.logFile]
  (read ++ log).map (fun s => (Path.ofString s).resolve here) ++ d.templates?.toList ++
    [d.sourcePath, d.manifestPath]

/-- The answer to a command line: a message about its use and an exit code, or a session with what
it logs. -/
inductive Answer where
  | usage (exitCode : Nat)
  | session (s : Session) (log : String)
  | invalidLogFormat (format : String)
  /-- The log file can not be opened, or one of the directories can not be anywhere. -/
  | unusablePath (f : FileFault)

/-- Options, then inputs, then the generated source, then the manifest. Each stage that fails ends
the run with an exit code of its own. -/
def run (w : World) (arguments : List String) : Answer :=
  match Request.ofArguments arguments with
  | .help => .usage 0
  | .misuse => .usage 2
  | .run o =>
    if !o.logFormat.isEmpty && !Log.Format.isValid o.logFormat then .invalidLogFormat o.logFormat
    else
      match openLog w o with
      | .error f => .unusablePath f
      | .ok tree =>
        if (o.outputDirectory ++ o.templatesDirectory).contains '\x00' then
          .unusablePath .nullCharacter
        else
          let s := runOptions w arguments o tree
          .session s (terminalText o s.notices)

end CommandLine

end ScriptGlue

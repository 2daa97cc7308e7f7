import ScriptGlue.Log.Format
import ScriptGlue.Log.Level
import ScriptGlue.Text.Find

namespace ScriptGlue.CommandLine

/-- A long option may be shortened as long as no other one begins like it, and letters of options
without a value can be put together. -/
structure Options where
  headers : List String := []
  parserArguments : String := ""
  catalogFile : String := ""
  includeFilters : List String := []
  excludePattern : String := ""
  strippedNamespaces : List String := []
  outputDirectory : String := "generated"
  outputFile : String := "GeneratedGlue.cpp"
  templatesDirectory : String := ""
  registerFunction : String := "ASRegisterGenerated"
  noFields : Bool := false
  noManifest : Bool := false
  dryRun : Bool := false
  verbose : Nat := 0
  quiet : Nat := 0
  logLevel : String := ""
  logFormat : String := Log.Format.standard
  logFile : String := ""

inductive Effect where
  | help
  | switch (set : Options → Options)
  | value (store : String → Options → Option Options)

def levelNames : List String := ["CRITICAL", "ERROR", "WARNING", "INFO", "DEBUG", "NOTSET"]

def store (set : String → Options → Options) : Effect := .value fun v o => some (set v o)

def effects : List (String × Effect) := [
  ("-h", .help),
  ("--help", .help),
  ("--headers", store fun v o => { o with headers := o.headers ++ [v] }),
  ("--clang-args", store fun v o => { o with parserArguments := v }),
  ("--catalog-json", store fun v o => { o with catalogFile := v }),
  ("--include-filter", store fun v o => { o with includeFilters := o.includeFilters ++ [v] }),
  ("--exclude-regex", store fun v o => { o with excludePattern := v }),
  ("--strip-namespace", store fun v o =>
    { o with strippedNamespaces := o.strippedNamespaces ++ [v] }),
  ("--output-dir", store fun v o => { o with outputDirectory := v }),
  ("--output-file", store fun v o => { o with outputFile := v }),
  ("--templates-dir", store fun v o => { o with templatesDirectory := v }),
  ("--register-function", store fun v o => { o with registerFunction := v }),
  ("--no-fields", .switch fun o => { o with noFields := true }),
  ("--no-manifest", .switch fun o => { o with noManifest := true }),
  ("--dry-run", .switch fun o => { o with dryRun := true }),
  ("-v", .switch fun o => { o with verbose := o.verbose + 1 }),
  ("--verbose", .switch fun o => { o with verbose := o.verbose + 1 }),
  ("-q", .switch fun o => { o with quiet := o.quiet + 1 }),
  ("--quiet", .switch fun o => { o with quiet := o.quiet + 1 }),
  ("--log-level", .value fun v o =>
    let name := Text.capitalsOf v
    if levelNames.contains name then some { o with logLevel := name } else none),
  ("--log-format", store fun v o => { o with logFormat := v }),
  ("--log-file", store fun v o => { o with logFile := v })]

/-- What is written together with the name of an option: a value after an equals sign, or the rest
of a group of letters. -/
inductive Attached where
  | nothing
  | afterEquals (value : String)
  | letters (rest : String)

namespace Attached

/-- The letters that are put together with an option of one letter, if that is a way to read what
is attached. -/
def group? (isShort : Bool) : Attached → Option (List Char)
  | nothing => some []
  | afterEquals s | letters s => if isShort && !s.isEmpty then some s.toList else none

end Attached

/-- How one argument is understood before any option has taken its value. -/
inductive Argument where
  | plain (text : String)
  | option (effect : Effect) (isShort : Bool) (attached : Attached)
  | unknown
  | ambiguous

def isShortName (name : String) : Bool := !Text.startsWith name "--"

def splitAtEquals? (s : String) : Option (String × String) :=
  let head := s.toList.takeWhile (· != '=')
  match s.toList.drop head.length with
  | _ :: value => some (String.ofList head, String.ofList value)
  | [] => none

/-- The options that a shortened name, or a group of letters, can stand for. -/
def candidates (s : String) : List (Effect × Bool × Attached) :=
  if Text.startsWith s "--" then
    let (head, attached) := match splitAtEquals? s with
      | some (head, value) => (head, Attached.afterEquals value)
      | none => (s, .nothing)
    (effects.filter fun e => Text.startsWith e.1 head).map fun e => (e.2, false, attached)
  else
    let letter := String.ofList (s.toList.take 2)
    let rest := String.ofList (s.toList.drop 2)
    (effects.filter (·.1 == letter)).map fun e => (e.2, true, Attached.letters rest)

/-- A whole number or a decimal one after a minus sign, which is no option. The digits can be of
any script, and a line feed may end the text. -/
def isNegativeNumber (s : String) : Bool :=
  let cs := if s.toList.getLast? == some '\n' then s.toList.dropLast else s.toList
  match cs with
  | '-' :: cs =>
    let whole := cs.takeWhile Text.isDecimal
    match cs.drop whole.length with
    | [] => !whole.isEmpty
    | '.' :: ds => !ds.isEmpty && ds.all Text.isDecimal
    | _ => false
  | _ => false

def classify (s : String) : Argument :=
  if !Text.startsWith s "-" || s == "-" then .plain s
  else if let some e := effects.lookup s then .option e (isShortName s) .nothing
  else
    let exact := do
      let (head, value) ← splitAtEquals? s
      let e ← effects.lookup head
      return Argument.option e (isShortName head) (.afterEquals value)
    match exact, candidates s with
    | some a, _ => a
    | none, [(e, isShort, attached)] => .option e isShort attached
    | none, _ :: _ :: _ => .ambiguous
    | none, [] => if isNegativeNumber s || s.toList.contains ' ' then .plain s else .unknown

inductive Request where
  | help
  | misuse
  | run (o : Options)

/-- The effects of a group of letters, each of which has to name an option without a value. -/
def letterEffects? (letters : List Char) : Option (List Effect) :=
  letters.mapM fun c =>
    match effects.lookup (String.ofList ['-', c]) with
    | some (.value _) | none => none
    | some e => some e

def applyEffects (o : Options) : List Effect → Option Options
  | [] => some o
  | .switch set :: es => applyEffects (set o) es
  | .help :: _ => none
  | .value _ :: es => applyEffects o es

/-- Reads the arguments in order. No argument may be left over, but help that is asked for comes
before the complaint about it. -/
def readArguments (o : Options) (leftOver : Bool) : List Argument → Request
  | [] => if leftOver then .misuse else .run o
  | .plain _ :: as => readArguments o true as
  | .unknown :: as => readArguments o true as
  | .ambiguous :: _ => .misuse
  | .option (.value store) _ attached :: as =>
    match attached, as with
    | .afterEquals v, as =>
      match store v o with
      | some o => readArguments o leftOver as
      | none => .misuse
    | _, .plain v :: as =>
      match store v o with
      | some o => readArguments o leftOver as
      | none => .misuse
    | _, _ => .misuse
  | .option effect isShort attached :: as =>
    match (attached.group? isShort).bind letterEffects? with
    | none => .misuse
    | some more =>
      match applyEffects o (effect :: more) with
      | some o => readArguments o leftOver as
      | none => .help

/-- Reads a command line. Nothing but options can be given, so all that follows `--` is left
over. -/
def Request.ofArguments (arguments : List String) : Request :=
  let read := (arguments.takeWhile (· != "--")).map classify
  if read.any fun
    | .ambiguous => true
    | _ => false
  then .misuse
  else readArguments {} (arguments.contains "--") read

def usageText : String :=
  "usage: asbinding-generator [options]\n\noptions:\n" ++
    String.join (effects.map fun e =>
      "  " ++ e.1 ++ (match e.2 with
        | .value _ => " VALUE"
        | _ => "") ++ "\n")

/-- The level that the options ask for: by its name, or by how often they say verbose or quiet. -/
def Options.threshold (o : Options) : Log.Level :=
  if !o.logLevel.isEmpty then (Log.levels.get? o.logLevel).getD Log.info
  else if o.verbose ≥ 1 then Log.debug
  else if o.quiet ≥ 2 then Log.error
  else if o.quiet == 1 then Log.warning
  else Log.info

end ScriptGlue.CommandLine

import ScriptGlue.Catalog
import ScriptGlue.Header.Sighting
import ScriptGlue.Run

namespace ScriptGlue

namespace Lineage

def root : String := "RefCounted"

def findAny {σ α : Type} (test : σ → α → Bool × σ) : σ → List α → Bool × σ
  | s, [] => (false, s)
  | s, a :: as =>
    match test s a with
    | (true, s) => (true, s)
    | (false, s) => findAny test s as

/-- Whether bases lead from a class to the root. Answers are remembered, and a class that is being
asked about already adds nothing. The first argument bounds the length of a chain, which is the
number of classes at most. -/
def leadsToRoot (classes : Table String ClassDecl) :
    Nat → List String → Table String Bool → String → Bool × Table String Bool
  | 0, _, memory, name => (name == root, memory)
  | depth + 1, seen, memory, name =>
    if name == root then (true, memory)
    else
      match memory.get? name, classes.get? name with
      | some answer, _ => (answer, memory)
      | none, none => (false, memory)
      | none, some c =>
        if seen.contains name then (false, memory)
        else
          let (answer, memory) :=
            findAny (leadsToRoot classes depth (name :: seen)) memory (c.bases.map (·.shown))
          (answer, memory.put name answer)

/-- Asks about one class after another, in the order in which they were collected. -/
def markAll (classes : Table String ClassDecl) (depth : Nat) :
    Table String Bool → List ClassDecl → List ClassDecl
  | _, [] => []
  | memory, c :: cs =>
    let (answer, memory) := leadsToRoot classes depth [] memory c.name.shown
    { c with isRefCounted := answer } :: markAll classes depth memory cs

/-- The classes in the order of their names, each with its mark. The bases of a name are those of
the last class that has it. -/
def resolve (collected : List ClassDecl) : List ClassDecl :=
  let classes : Table String ClassDecl := .ofList (collected.map fun c => (c.name.shown, c))
  (markAll classes (collected.length + 1) {} collected).mergeSort fun a b =>
    a.name.shown ≤ b.name.shown

end Lineage

/-- What has been collected, each table in the order of the first sightings. -/
structure Collected where
  classes : Table String ClassDecl := {}
  enums : Table String EnumDecl := {}
  aliases : Table String AliasDecl := {}
  functions : Table String FunctionDecl := {}
  fields : Table String FieldDecl := {}

namespace Collected

/-- The first declaration with a key is the one that is kept. -/
def add (c : Collected) : Sighting → Run Collected
  | .excludedClass name => do
    Run.tell (.classExcluded name)
    return c
  | .classDecl key d => return { c with classes := c.classes.insertNew key d }
  | .enumDecl key d => return { c with enums := c.enums.insertNew key d }
  | .aliasDecl key d => return { c with aliases := c.aliases.insertNew key d }
  | .functionDecl key d? =>
    if c.functions.contains key then return c
    else
      match d? with
      | some d => return { c with functions := c.functions.insertNew key d }
      | none => Run.stop .emptyToken
  | .fieldDecl key d => return { c with fields := c.fields.insertNew key d }

end Collected

/-- The parser of headers, as far as a run depends on it. -/
structure HeaderParser where
  loadError? : Option String := none
  parse : String → HeaderUnit := fun _ => {}

namespace HeaderParser

/-- The arguments of a call: the language is C++ and nothing is warned about, unless the user says
otherwise. -/
def callArguments (arguments : List String) : List String :=
  let arguments :=
    if arguments.any (Text.startsWith · "-x") then arguments else ["-x", "c++"] ++ arguments
  if arguments.any (Text.startsWith · "-W") then arguments else arguments ++ ["-Wno-everything"]

/-- Function bodies are skipped, and a header need not be complete. -/
def callOptions : Nat := 66

end HeaderParser

namespace Collection

def visit (r : CollectionRules) (c : Collected) (unit : Cursor) : Run Collected :=
  (r.sightings unit).foldlM Collected.add c

def parseHeader (p : HeaderParser) (r : CollectionRules) (arguments : List String)
    (emitDiagnostics : Bool) (c : Collected) (header : Path) : Run Collected := do
  Run.record ⟨header.text, HeaderParser.callArguments arguments⟩
  let unit := p.parse header.text
  if emitDiagnostics then Run.tellAll (unit.diagnostics.map .parserDiagnostic)
  visit r c unit.cursor

def inputs (conventions : Conventions) (c : Collected) : Inputs where
  catalog := .build conventions (Lineage.resolve c.classes.values) c.enums.values c.aliases.values
  functions := c.functions.values
  fields := c.fields.values

/-- Parses the headers one after another and builds the catalog from all of them. -/
def collect (p : HeaderParser) (r : CollectionRules) (conventions : Conventions)
    (arguments : List String) (headers : List Path) (emitDiagnostics : Bool := true) :
    Run Inputs := do
  match p.loadError? with
  | some reason => Run.stop (.parserUnavailable reason)
  | none => pure ()
  if r.filters.any (·.contains '\x00') then Run.stop (.file .nullCharacter)
  let c ← headers.foldlM (parseHeader p r arguments emitDiagnostics) {}
  let i := inputs conventions c
  Run.tellAll ((Catalog.shadowed [] (Lineage.resolve c.classes.values)).map .shadowedClass)
  Run.tell (.declarationsCollected i.catalog.text i.functions.length i.fields.length)
  return i

end Collection

end ScriptGlue

import ScriptGlue.Catalog
import ScriptGlue.CppType.Spelling
import ScriptGlue.Header.Cursor
import ScriptGlue.Header.Spelling
import ScriptGlue.Path

namespace ScriptGlue

structure CollectionRules where
  here : Path := ⟨1, []⟩
  /-- If there are any, only files whose paths start with one of them are looked at. -/
  filters : List String := []
  isExcluded : String → Bool := fun _ => false
  /-- The namespaces that type spellings are freed of. -/
  namespaces : List String := ["Urho3D"]

/-- A declaration that a syntax tree shows. What is met on a walk through the tree does not depend
on what was met before. -/
inductive Sighting where
  | excludedClass (name : String)
  | classDecl (key : String) (c : ClassDecl)
  | enumDecl (key : String) (e : EnumDecl)
  | aliasDecl (key : String) (a : AliasDecl)
  /-- No declaration stands for one whose default values can not be read. -/
  | functionDecl (key : String) (f? : Option FunctionDecl)
  | fieldDecl (key : String) (f : FieldDecl)

namespace CollectionRules

def systemDirectories : List String := ["/usr/include", "/usr/local/include", "/usr/lib"]

def internalMarkers : List String := ["@internal", "\\internal"]

def filePath? (r : CollectionRules) (i : CursorInfo) : Option String :=
  i.file?.map fun f => ((Path.ofString f).resolve r.here).text

def admits (r : CollectionRules) (i : CursorInfo) : Bool :=
  match r.filePath? i with
  | none => i.kind.isContainer
  | some p =>
    if r.filters.isEmpty then !systemDirectories.any (Text.startsWith p ·)
    else r.filters.any (Text.startsWith p ·)

def relativePath (r : CollectionRules) (p : String) : String :=
  match r.filters.findSome? (·.toList.isPrefixOf? p.toList) with
  | some rest => String.ofList (rest.dropWhile (· == '/'))
  | none => p

def header (r : CollectionRules) (i : CursorInfo) : String :=
  r.relativePath ((r.filePath? i).getD "")

def location (r : CollectionRules) (i : CursorInfo) : String :=
  match r.filePath? i with
  | some p => r.relativePath p ++ ":" ++ toString i.line
  | none => ""

def typeOf (r : CollectionRules) (spelling : String) : CppType :=
  .ofSpelling (Spelling.strip r.namespaces spelling)

def parameter? (r : CollectionRules) (p : ParameterCursor) (position : Nat) : Option Parameter := do
  return {
    name := .string (if p.spelling.isEmpty then "arg" ++ toString position else p.spelling)
    type := r.typeOf p.type
    default := .ofOption (← Spelling.defaultValue? p.tokens) }

def function? (r : CollectionRules) (i : CursorInfo) (owner : Attribute)
    (kind : FunctionKind) : Option FunctionDecl := do
  return {
    name := i.spelling
    returnType := r.typeOf i.resultType
    parameters := ← (i.parameters.zipIdx 1).mapM fun p => r.parameter? p.1 p.2
    kind
    owner
    isConst := kind == .method && i.isConst
    header := r.header i
    location := r.location i
    usr := i.usr }

def functionSightings (r : CollectionRules) (i : CursorInfo) (owner : Attribute)
    (kind : FunctionKind) : List Sighting :=
  if i.spelling.isEmpty || Text.startsWith i.spelling "operator" then []
  else
    let key :=
      if i.usr.isEmpty then owner.shown ++ "::" ++ i.spelling ++ ":" ++ i.type else i.usr
    [.functionDecl key (r.function? i owner kind)]

def fieldSightings (r : CollectionRules) (i : CursorInfo) (owner : String) : List Sighting :=
  let key := if i.usr.isEmpty then owner ++ "::" ++ i.spelling else i.usr
  [.fieldDecl key {
    name := i.spelling
    type := r.typeOf i.type
    owner := .string owner
    header := r.header i
    location := r.location i }]

def enumSightings (r : CollectionRules) (i : CursorInfo) (children : List Cursor) :
    List Sighting :=
  if i.spelling.isEmpty then []
  else
    let constants := children.filter fun c => c.info.kind == .enumConstant
    [.enumDecl i.spelling {
      name := i.spelling
      values := constants.map fun c => .string c.info.spelling
      header := r.header i }]

def aliasSightings (r : CollectionRules) (i : CursorInfo) : List Sighting :=
  if i.spelling.isEmpty then []
  else
    [.aliasDecl i.spelling {
      name := i.spelling
      target := Spelling.strip r.namespaces i.target }]

/-- A class says that it is internal in its comment; one inside another class is internal as well if
it is not public. -/
def isInternal (i : CursorInfo) (nested : Bool) : Bool :=
  internalMarkers.any (Text.contains i.comment ·) || (nested && !i.isPublic)

def classSighting (r : CollectionRules) (i : CursorInfo) (children : List Cursor)
    (internal : Bool) : Sighting :=
  let bases := children.filter fun c => c.info.kind == .baseSpecifier
  .classDecl (if i.usr.isEmpty then i.spelling else i.usr) {
    name := i.spelling
    id := i.usr
    isInternal := internal
    comment := i.comment
    header := r.header i
    bases := bases.map fun c => .string (Spelling.strip r.namespaces c.info.type) }

mutual

/-- A class shows itself and then its members, unless it is only declared or is excluded. -/
def classSightings (r : CollectionRules) (nested : Bool) : Cursor → List Sighting
  | .node i cs =>
    if !i.isDefinition || i.spelling.isEmpty then []
    else if r.isExcluded i.spelling then [.excludedClass i.spelling]
    else
      let internal := isInternal i nested
      r.classSighting i cs internal :: r.memberSightings i.spelling internal cs

/-- Classes inside a class are always met, its enumerations if they are public, and its functions
and fields if they are public and the class is not internal. -/
def memberSightings (r : CollectionRules) (owner : String) (internal : Bool) :
    List Cursor → List Sighting
  | [] => []
  | .node i cs :: rest =>
    let met :=
      if i.kind.isClass then r.classSightings true (.node i cs)
      else if i.kind == .enumDecl && i.isPublic then r.enumSightings i cs
      else if !i.isPublic || internal then []
      else if i.kind == .method then
        r.functionSightings i (.string owner) (if i.isStatic then .static else .method)
      else if i.kind == .fieldDecl then r.fieldSightings i owner
      else []
    met ++ r.memberSightings owner internal rest

end

mutual

def sightings (r : CollectionRules) : Cursor → List Sighting
  | .node i cs =>
    if i.kind != .translationUnit && !r.admits i then []
    else if i.kind.isContainer then r.sightingsOfAll cs
    else if i.kind.isClass then r.classSightings false (.node i cs)
    else if i.kind == .enumDecl then r.enumSightings i cs
    else if i.kind == .typeAlias || i.kind == .typedefDecl then r.aliasSightings i
    else if i.kind == .functionDecl then r.functionSightings i .null .free
    else []

def sightingsOfAll (r : CollectionRules) : List Cursor → List Sighting
  | [] => []
  | c :: cs => r.sightings c ++ r.sightingsOfAll cs

end

end CollectionRules

end ScriptGlue

import ScriptGlue.Conventions
import ScriptGlue.Declaration
import ScriptGlue.Rejection
import ScriptGlue.Table

namespace ScriptGlue

namespace Primitive

/-- C++ names with their script names. The last four are registered by hand elsewhere. -/
def table : Table String String := ⟨[
  ("bool", "bool"),
  ("char", "int8"),
  ("signed char", "int8"),
  ("unsigned char", "uint8"),
  ("short", "int16"),
  ("unsigned short", "uint16"),
  ("int", "int"),
  ("unsigned", "uint"),
  ("unsigned int", "uint"),
  ("long long", "int64"),
  ("unsigned long long", "uint64"),
  ("float", "float"),
  ("double", "double"),
  ("long", "long"),
  ("unsigned long", "ulong"),
  ("size_t", "size_t"),
  ("SDL_JoystickID", "SDL_JoystickID")]⟩

def scriptName? (name : String) : Option String := table.get? name

def isPrimitive (name : String) : Bool := (scriptName? name).isSome

def scriptName (name : String) : String := (scriptName? name).getD name

structure Unknown where
  name : String

def Unknown.message (u : Unknown) : String := u.name ++ " not a primitive type"

def strictScriptName (name : String) : Except Unknown String :=
  match scriptName? name with
  | some s => .ok s
  | none => .error ⟨name⟩

end Primitive

structure ClassDecl where
  name : Attribute
  /-- A stable identity; an empty one identifies nothing. -/
  id : Attribute := ""
  isInternal : Bool := false
  isRefCounted : Bool := false
  comment : Attribute := ""
  header : Attribute := ""
  bases : List Attribute := []

def ClassDecl.hasMarker (c : ClassDecl) (marker : String) : Bool := c.comment.holdsMark marker

structure EnumDecl where
  name : Attribute
  values : List Attribute := []
  header : Attribute := ""

structure AliasDecl where
  name : Attribute
  target : Attribute := ""

structure Catalog where
  conventions : Conventions := {}
  classes : Table Key ClassDecl := {}
  /-- The classes in `classes` that have an identity. -/
  identities : Table Key ClassDecl := {}
  enums : Table Key EnumDecl := {}
  aliases : Table Key AliasDecl := {}

namespace Catalog

/-- Of two classes with one identity the later one is found by it. -/
def identify (identities : Table Key ClassDecl) (d : ClassDecl) : Table Key ClassDecl :=
  match d.id.key? with
  | some k => if d.id.isTruthy then identities.put k d else identities
  | none => identities

/-- Of two classes with one name the first is kept. -/
def addClass (c : Catalog) (d : ClassDecl) : Catalog :=
  match d.name.key? with
  | some k =>
    if c.classes.contains k then c
    else
      { c with classes := c.classes.insertNew k d, identities := identify c.identities d }
  | none => c

def keyed {α : Type} (name : α → Attribute) (xs : List α) : List (Key × α) :=
  xs.filterMap fun x => (name x).key?.map (·, x)

/-- Of two enumerations or aliases with one name the later one is kept. -/
def build (conventions : Conventions) (classes : List ClassDecl) (enums : List EnumDecl)
    (aliases : List AliasDecl) : Catalog :=
  { classes.foldl addClass { conventions } with
    enums := .ofList (keyed EnumDecl.name enums)
    aliases := .ofList (keyed AliasDecl.name aliases) }

/-- The names of the classes that an earlier class of the same name shadows. -/
def shadowed (seen : List Key) : List ClassDecl → List String
  | [] => []
  | d :: ds =>
    match d.name.key? with
    | some k =>
      if seen.contains k then d.name.shown :: shadowed seen ds else shadowed (k :: seen) ds
    | none => shadowed seen ds

def class? (c : Catalog) (name : Key) : Option ClassDecl := c.classes.get? name

def classById? (c : Catalog) (id : Key) : Option ClassDecl := c.identities.get? id

def enum? (c : Catalog) (name : Key) : Option EnumDecl := c.enums.get? name

def isAlias (c : Catalog) (name : Key) : Bool := c.aliases.contains name

/-- Void and the primitives, the accepted aliases, classes and enumerations, and every name with the
ending of a set of flags. -/
def isKnown (c : Catalog) (name : String) : Bool :=
  name == "void" || Primitive.isPrimitive name || c.conventions.aliasWhitelist.contains name ||
    c.classes.contains (.text name) || c.enums.contains (.text name) ||
    Text.endsWith name c.conventions.flagsSuffix

def supportsHandles (c : Catalog) (name : Key) : Bool :=
  (c.class? name).any fun d => d.isRefCounted || d.hasMarker c.conventions.fakeRefMarker

def text (c : Catalog) : String :=
  "SymbolCatalog(classes=" ++ toString c.classes.size ++ ", enums=" ++ toString c.enums.size ++
    ", usings=" ++ toString c.aliases.size ++ ")"

end Catalog

/-- All that a run works on: the catalog and the declarations to bind. -/
structure Inputs where
  catalog : Catalog
  functions : List FunctionDecl := []
  fields : List FieldDecl := []

inductive Verdict where
  | accepted
  | refused (reason : UnbindableReason)
  | markedNoBind
  deriving DecidableEq

namespace Catalog

/-- A scope operator is met first, then a name that is not known, then what is recorded about the
class of that name, and last an alias. -/
def resolve (c : Catalog) (name : String) : Verdict :=
  if Text.contains name "::" then .refused .scoped
  else if !c.isKnown name then .refused .unknown
  else if (c.class? name).any (·.isInternal) then .refused .internal
  else if (c.class? name).any (·.hasMarker c.conventions.noBindMarker) then .markedNoBind
  else if c.isAlias name && !c.conventions.aliasWhitelist.contains name then .refused .alias
  else .accepted

def isUndecided (c : Catalog) (name : String) : Bool :=
  !Text.contains name "::" &&
    (c.class? name).any fun d => !d.isInternal && !d.comment.isSearchable

/-- Whether a class can have handles depends on its comment, which can not be searched. -/
def hasOpenHandles (c : Catalog) (name : Key) : Bool :=
  (c.class? name).any fun d => !d.isRefCounted && !d.comment.isSearchable

/-- The class that a verdict on the name goes by; a name that is scoped or not known has none. -/
def judgedClass? (c : Catalog) (name : String) : Option ClassDecl :=
  match c.resolve name with
  | .refused .scoped | .refused .unknown | .refused .alias => none
  | _ => c.class? name

def isBindable (c : Catalog) (name : String) : Bool := c.resolve name == .accepted

def requireBindable (c : Catalog) (t : CppType) : Except Rejection Unit :=
  match c.resolve t.name with
  | .accepted => .ok ()
  | .refused reason => .error (.unbindable reason t)
  | .markedNoBind => .error (.markedNoBind t)

end Catalog

end ScriptGlue

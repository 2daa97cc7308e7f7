namespace ScriptGlue

inductive CursorKind where
  | translationUnit
  | namespaceDecl
  | classDecl
  | structDecl
  | enumDecl
  | enumConstant
  | typeAlias
  | typedefDecl
  | functionDecl
  | method
  | fieldDecl
  | baseSpecifier
  | other
  deriving DecidableEq

namespace CursorKind

def isClass (k : CursorKind) : Bool := k == classDecl || k == structDecl

def isContainer (k : CursorKind) : Bool := k == namespaceDecl || k == translationUnit

def ofName (name : String) : CursorKind :=
  match name with
  | "TRANSLATION_UNIT" => translationUnit
  | "NAMESPACE" => namespaceDecl
  | "CLASS_DECL" => classDecl
  | "STRUCT_DECL" => structDecl
  | "ENUM_DECL" => enumDecl
  | "ENUM_CONSTANT_DECL" => enumConstant
  | "TYPE_ALIAS_DECL" => typeAlias
  | "TYPEDEF_DECL" => typedefDecl
  | "FUNCTION_DECL" => functionDecl
  | "CXX_METHOD" => method
  | "FIELD_DECL" => fieldDecl
  | "CXX_BASE_SPECIFIER" => baseSpecifier
  | _ => other

end CursorKind

/-- A parameter with the spellings of the tokens that declare it. -/
structure ParameterCursor where
  spelling : String := ""
  type : String := ""
  tokens : List String := []

structure CursorInfo where
  kind : CursorKind
  spelling : String := ""
  file? : Option String := none
  line : Int := 0
  comment : String := ""
  isPublic : Bool := true
  type : String := ""
  resultType : String := "void"
  target : String := ""
  usr : String := ""
  isDefinition : Bool := true
  isStatic : Bool := false
  isConst : Bool := false
  parameters : List ParameterCursor := []

inductive Cursor where
  | node (info : CursorInfo) (children : List Cursor)

namespace Cursor

def info : Cursor → CursorInfo
  | node i _ => i

def children : Cursor → List Cursor
  | node _ cs => cs

def emptyUnit : Cursor := node { kind := .translationUnit } []

instance : Inhabited Cursor := ⟨emptyUnit⟩

end Cursor

structure HeaderUnit where
  cursor : Cursor := .emptyUnit
  diagnostics : List String := []

end ScriptGlue

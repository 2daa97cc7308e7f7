import ScriptGlue.Attribute
import ScriptGlue.CppType
import ScriptGlue.Table

namespace ScriptGlue

structure Parameter where
  name : Attribute
  type : CppType
  /-- The C++ text after the equals sign; an empty one, or null, stands for none. -/
  default : Attribute := .null

inductive FunctionKind where
  | free
  | static
  | method
  deriving DecidableEq

/-- A free function, a static function of a class, or a method of an object. Each overload is a
declaration of its own. -/
structure FunctionDecl where
  name : Attribute
  returnType : CppType
  parameters : List Parameter := []
  kind : FunctionKind := .free
  /-- The class of the function; null, or any other empty value, stands for none. -/
  owner : Attribute := .null
  isConst : Bool := false
  header : Attribute := ""
  /-- Where it is declared, for instance `Scene/Node.h:123`. -/
  location : Attribute := ""
  /-- What stands for the parameters of the class template, in the order of replacement. -/
  specialization : Table Key Attribute := {}
  /-- The identity that the parser of the headers gives to it. -/
  usr : Attribute := ""

namespace FunctionDecl

def qualifiedName (f : FunctionDecl) : String :=
  if f.owner.isTruthy then f.owner.shown ++ "::" ++ f.name.shown else f.name.shown

def isConstMethod (f : FunctionDecl) : Bool := f.isConst && f.kind == .method

def signature (f : FunctionDecl) : String :=
  (if f.kind == .static then "static " else "") ++ f.returnType.spelling ++ " " ++
    f.qualifiedName ++ "(" ++ ", ".intercalate (f.parameters.map (·.type.spelling)) ++ ")" ++
    (if f.isConstMethod then " const" else "")

end FunctionDecl

/-- A public data member that belongs to each object of its class. -/
structure FieldDecl where
  name : Attribute
  type : CppType
  owner : Attribute
  header : Attribute := ""
  location : Attribute := ""

namespace FieldDecl

def signature (f : FieldDecl) : String :=
  f.type.spelling ++ " " ++ f.owner.shown ++ "::" ++ f.name.shown

end FieldDecl

end ScriptGlue

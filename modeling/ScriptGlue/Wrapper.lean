import ScriptGlue.Conversion
import ScriptGlue.Declaration
import ScriptGlue.Text.Find

namespace ScriptGlue

namespace CppType

/-- The letters of a type name that go into an identifier: what it is without spaces, scope
operators, brackets and stars, each kind removed in this order. -/
def identifierPart (name : String) : String :=
  String.ofList <| [" ", "::", "<", ">", "*"].foldl (fun s t => Text.replaceAll t "" s) name.toList

end CppType

namespace FunctionDecl

def overloadName (name : String) (types : List CppType) : String :=
  if types.isEmpty then name ++ "_void"
  else name ++ String.join (types.map fun t => "_" ++ CppType.identifierPart t.name)

def composeWrapperName (name : String) (types : List CppType) (owner : Attribute)
    (isTemplate : Bool) : String :=
  let base := overloadName name types
  let qualified := if owner.isTruthy then owner.shown ++ "_" ++ base else base
  if isTemplate then qualified ++ "_template" else qualified

/-- The class counts for methods only, and the template variant for methods of an object only. -/
def wrapperName (f : FunctionDecl) (isTemplate : Bool := false) : String :=
  composeWrapperName f.name.shown (f.parameters.map (·.type))
    (if f.kind == .free then .null else f.owner) (isTemplate && f.kind == .method)

def isNameable (f : FunctionDecl) : Bool := f.name.isText

/-- The groups of items whose functions share a wrapper name and do not all have one signature. -/
def collisions {α : Type} (function : α → FunctionDecl) (xs : List α) : List (String × List α) :=
  (Table.groupBy (fun x => (function x).wrapperName) xs).entries.filter fun g =>
    match g.2 with
    | [] => false
    | x :: rest => rest.any fun y => (function y).signature != (function x).signature

end FunctionDecl

/-- A function with the conversions of its signature, around which a static C++ function converts
the arguments and the result. It has to be generated only if one of the conversions asks for it. -/
structure Wrapper where
  function : FunctionDecl
  parameters : List Conversion
  result : Conversion
  name : String
  isTemplate : Bool := false
  guard? : Option String := none

structure ParameterMismatch where
  function : String
  converted : Nat
  expected : Nat

def ParameterMismatch.message (m : ParameterMismatch) : String :=
  m.function ++ ": " ++ toString m.converted ++ " converted parameter(s) for " ++
    toString m.expected ++ " parameter(s)"

def given? (s : Option String) : Option String := s.filter (!·.isEmpty)

namespace Wrapper

/-- Converts the parameters from left to right and then the result; the first rejection counts. -/
def build (c : Catalog) (f : FunctionDecl) (isTemplate : Bool := false) :
    Except Rejection Wrapper := do
  let parameters ← f.parameters.mapM fun p =>
    c.convert p.type p.name.shown .parameter p.default
  let result ← c.convert f.returnType "" .result
  return {
    function := f
    parameters
    result
    name := f.wrapperName isTemplate
    isTemplate := isTemplate && f.kind == .method
    guard? := c.conventions.guardFor? f.header }

/-- Going through the parameters from left to right, an attribute is met that is not what its
conversion needs. -/
def meetsMisfit (c : Catalog) : List Parameter → Bool
  | [] => false
  | p :: ps =>
    c.isStuck p.type p.name.shown .parameter p.default ||
      (c.convert p.type p.name.shown .parameter p.default).isOk &&
        (!c.fits p.type p.name .parameter p.default || meetsMisfit c ps)

/-- The wrapper of a function can neither be built nor be refused, because an attribute is no text
where one is needed, and nothing before it is a reason to refuse. -/
def isMisfit (c : Catalog) (f : FunctionDecl) : Bool :=
  meetsMisfit c f.parameters ||
    (f.parameters.all fun p => (c.convert p.type p.name.shown .parameter p.default).isOk) &&
      (c.isStuck f.returnType "" .result .null ||
        ((c.convert f.returnType "" .result).isOk &&
          !(f.isNameable && f.header.isTextOrEmpty)))

def isNeeded (w : Wrapper) : Bool := w.result.needsWrapper || w.parameters.any (·.needsWrapper)

def returnType (w : Wrapper) : String :=
  (given? w.result.nativeOverride?).getD w.function.returnType.spelling

def returnsVoid (w : Wrapper) : Bool := w.returnType == "void"

def scriptDeclaration (w : Wrapper) : String :=
  w.result.declaration ++ " " ++ w.function.name.shown ++
    "(" ++ ", ".intercalate (w.parameters.map (·.declaration)) ++ ")" ++
    (if w.function.isConstMethod then " const" else "")

end Wrapper

end ScriptGlue

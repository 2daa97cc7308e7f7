import ScriptGlue.Attribute
import ScriptGlue.Declaration
import ScriptGlue.Json
import ScriptGlue.Registration.Replacement
import ScriptGlue.Table
import ScriptGlue.Text.Word

namespace ScriptGlue

namespace Specialization

open Text

/-- Replaces `param` where word boundaries lie at both of its ends. `left` is the character before
the text and `skip` counts the characters of the last occurrence that are still to be passed over.
Where `param` is empty, the replacement is put at every boundary. -/
def replaceWord (param : List Char) (pieces : List ReplacementPiece) :
    Nat → Option Char → List Char → List Char
  | skip + 1, _, c :: cs => replaceWord param pieces skip (some c) cs
  | _, left, [] =>
    if param.isEmpty && isBoundary left none then Replacement.expand [] pieces else []
  | 0, left, c :: cs =>
    match param with
    | [] =>
      (if isBoundary left (some c) then Replacement.expand [] pieces else []) ++
        c :: replaceWord param pieces 0 (some c) cs
    | p :: ps =>
      match (p :: ps).isPrefixOf? (c :: cs) with
      | some rest =>
        if isBoundary left (some c) && isBoundary (ps.getLast?.or (some p)) rest.head? then
          Replacement.expand (p :: ps) pieces ++ replaceWord param pieces ps.length (some c) cs
        else c :: replaceWord param pieces 0 (some c) cs
      | none => c :: replaceWord param pieces 0 (some c) cs

def step (spelling : String) : Key × Attribute → Except ReplacementFault String
  | (.text param, .string concrete) => do
    let pieces ← Replacement.read concrete
    return String.ofList (replaceWord param.toList pieces 0 none spelling.toList)
  | _ => .error .notAText

/-- One parameter after another, each on the text that the earlier ones have left. -/
def apply (specialization : Table Key Attribute) (spelling : String) :
    Except ReplacementFault String :=
  specialization.entries.foldlM step spelling

end Specialization

namespace FunctionDecl

def specializedParameters (f : FunctionDecl) : Except ReplacementFault String := do
  let ts ← f.parameters.mapM fun p => Specialization.apply f.specialization p.type.spelling
  return "(" ++ ", ".intercalate ts ++ ")"

def callableName (f : FunctionDecl) : String :=
  if f.kind == .static then f.qualifiedName else f.name.shown

/-- The expression carries the C++ signature of the function itself and never the types that a
script sees. `isTemplate` puts the parameter of a template for the class of a method. -/
def registrationExpression (f : FunctionDecl) (isTemplate : Bool := false) :
    Except ReplacementFault String := do
  let parameters ← f.specializedParameters
  if f.kind == .method then
    let owner := if isTemplate then "T" else f.owner.shown
    let const := if f.isConst then " const" else ""
    return "asMETHODPR(" ++ owner ++ ", " ++ f.name.shown ++ ", " ++ parameters ++ const ++ ", " ++
      f.returnType.spelling ++ ")"
  else
    return "asFUNCTIONPR(" ++ f.callableName ++ ", " ++ parameters ++ ", " ++
      f.returnType.spelling ++ ")"

end FunctionDecl

inductive CallConvention where
  | cdecl
  | objectFirst
  | thisCall
  deriving DecidableEq

def CallConvention.text : CallConvention → String
  | .cdecl => "asCALL_CDECL"
  | .objectFirst => "asCALL_CDECL_OBJFIRST"
  | .thisCall => "asCALL_THISCALL"

inductive RegistrationStatement where
  | setNamespace (name : String)
  | globalFunction (declaration pointer : String)
  | objectMethod (owner declaration pointer : String) (convention : CallConvention)
  | objectProperty (owner declaration field : String)
  deriving DecidableEq

def RegistrationStatement.text : RegistrationStatement → String
  | setNamespace name => "engine->SetDefaultNamespace(\"" ++ name ++ "\");"
  | globalFunction declaration pointer =>
    "engine->RegisterGlobalFunction(\"" ++ declaration ++ "\", " ++ pointer ++ ", " ++
      CallConvention.cdecl.text ++ ");"
  | objectMethod owner declaration pointer convention =>
    "engine->RegisterObjectMethod(\"" ++ owner ++ "\", \"" ++ declaration ++ "\", " ++ pointer ++
      ", " ++ convention.text ++ ");"
  | objectProperty owner declaration field =>
    "engine->RegisterObjectProperty(\"" ++ owner ++ "\", \"" ++ declaration ++ "\", offsetof(" ++
      owner ++ ", " ++ field ++ "));"

structure Registration where
  statements : List RegistrationStatement
  guard? : Option String := none
  comment? : Option String := none

namespace Registration

def toJson (r : Registration) : Json := .object [
  ("statements", .strings (r.statements.map (·.text))),
  ("guard_macro", .ofOption r.guard?),
  ("comment", .ofOption r.comment?)]

end Registration

end ScriptGlue

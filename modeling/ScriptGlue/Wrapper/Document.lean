import ScriptGlue.Declaration.Document
import ScriptGlue.Wrapper

namespace ScriptGlue

structure WrapperParts where
  guard? : Option String
  location : Attribute
  returnType : String
  name : String
  parameters : List String
  parameterGlue : List String
  resultBinding : String
  callee : String
  arguments : List Attribute
  returnGlue? : Option String
  returnsVoid : Bool

namespace WrapperParts

def members (p : WrapperParts) : List (String × Json) := [
  ("guard_macro", .ofOption p.guard?),
  ("location", p.location),
  ("return_type", .string p.returnType),
  ("name", .string p.name),
  ("params", .strings p.parameters),
  ("param_glue", .strings p.parameterGlue),
  ("result_binding", .string p.resultBinding),
  ("callee", .string p.callee),
  ("args", .array p.arguments),
  ("return_glue", .ofOption p.returnGlue?),
  ("returns_void", .bool p.returnsVoid)]

end WrapperParts

namespace Wrapper

/-- A method takes its object first. -/
def objectParameter (f : FunctionDecl) : List String :=
  if f.kind == .method then [f.owner.shown ++ "* ptr"] else []

def nativeParameter (p : Parameter) (c : Conversion) : String :=
  (given? c.nativeOverride?).getD (p.type.spelling ++ " " ++ p.name.shown)

def callee (f : FunctionDecl) : String :=
  match f.kind with
  | .method => "ptr->" ++ f.name.shown
  | .static => f.owner.shown ++ "::" ++ f.name.shown
  | .free => f.name.shown

def parts (w : Wrapper) : Except ParameterMismatch WrapperParts :=
  if w.parameters.length != w.function.parameters.length then
    .error ⟨w.function.qualifiedName, w.parameters.length, w.function.parameters.length⟩
  else .ok {
    guard? := w.guard?
    location := w.function.location
    returnType := w.returnType
    name := w.name
    parameters := objectParameter w.function ++
      w.function.parameters.zipWith nativeParameter w.parameters
    parameterGlue := w.parameters.filterMap fun c => given? c.glue?
    resultBinding :=
      if w.returnsVoid then "" else w.function.returnType.spelling ++ " result = "
    callee := callee w.function
    arguments := w.function.parameters.map (·.name)
    returnGlue? := w.result.glue?
    returnsVoid := w.returnsVoid }

end Wrapper

def Conversion.toJson (c : Conversion) : Json := .object [
  ("script_declaration", .string c.declaration),
  ("native_override_declaration", .ofOption c.nativeOverride?),
  ("glue_statement", .ofOption c.glue?)]

def Wrapper.toJson (w : Wrapper) : Json := .object [
  ("name", .string w.name),
  ("function", w.function.toJson),
  ("converted_params", .array (w.parameters.map (·.toJson))),
  ("converted_return", w.result.toJson),
  ("template_version", .bool w.isTemplate),
  ("guard_macro", .ofOption w.guard?)]

end ScriptGlue

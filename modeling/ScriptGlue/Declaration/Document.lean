import ScriptGlue.CppType.Spelling
import ScriptGlue.Declaration
import ScriptGlue.Json.Decode
import ScriptGlue.Json.Printer

namespace ScriptGlue

namespace CppType

/-- A spelling that is not there, or empty in any other way, reads as the empty text. -/
def ofSpellingValue : Json → Except DecodeFault CppType
  | .string s => .ok (ofSpelling s)
  | j => if j.isTruthy then .error .wrongKind else .ok (ofSpelling "")

def ofMembers (ms : List (String × Json)) : Except DecodeFault CppType := do
  match ms.lookup "name", ms.lookup "spelling" with
  | none, some s => ofSpellingValue s
  | _, _ =>
    let name ← (← Json.required ms "name").asText
    return {
      name := normalizeName name
      isConst := Json.flag ms "is_const"
      isReference := Json.flag ms "is_reference"
      isPointer := Json.flag ms "is_pointer"
      isRvalueReference := Json.flag ms "is_rvalue_reference"
      isDoublePointer := Json.flag ms "is_double_pointer"
      isReferenceToPointer := Json.flag ms "is_reference_to_pointer" }

def ofJson : Json → Except DecodeFault CppType
  | .string s => .ok (ofSpelling s)
  | j => do ofMembers (← j.asObject)

def members (t : CppType) : List (String × Json) := [
  ("name", .string t.name),
  ("spelling", .string t.spelling),
  ("is_const", .bool t.isConst),
  ("is_reference", .bool t.isReference),
  ("is_pointer", .bool t.isPointer),
  ("is_rvalue_reference", .bool t.isRvalueReference),
  ("is_double_pointer", .bool t.isDoublePointer),
  ("is_reference_to_pointer", .bool t.isReferenceToPointer)]

def toJson (t : CppType) : Json := .object t.members

end CppType

namespace FunctionKind

def name : FunctionKind → String
  | .free => "FREE"
  | .static => "STATIC"
  | .method => "INSTANCE"

def ofName? (s : String) : Option FunctionKind := [free, static, method].find? (·.name == s)

def ofJson (j : Json) : Except DecodeFault FunctionKind := do
  let s ← j.memberName
  match ofName? s with
  | some k => return k
  | none => throw (.notMember (Text.quoted s))

end FunctionKind

namespace Usage

def name : Usage → String
  | .parameter => "PARAMETER"
  | .result => "RETURN"

def ofJson (j : Json) : Except DecodeFault Usage := do
  let s ← j.memberName
  match [parameter, result].find? (·.name == s) with
  | some u => return u
  | none => throw (.notMember (Text.quoted s))

end Usage

/-- The type of a parameter or field, under one of two names. -/
def declaredType (ms : List (String × Json)) : Except DecodeFault CppType :=
  match ms.lookup "cpp_type" <|> ms.lookup "type" with
  | some j => CppType.ofJson j
  | none => .ok (.ofSpelling "void")

namespace Parameter

def ofJson (j : Json) : Except DecodeFault Parameter := do
  let ms ← j.asObject
  return {
    name := ← Json.required ms "name"
    type := ← declaredType ms
    default := Json.optionalValue ms "default_value" .null }

def toJson (p : Parameter) : Json := .object [
  ("name", p.name),
  ("cpp_type", p.type.toJson),
  ("default_value", p.default)]

end Parameter

/-- A parameter of a class template and what stands for it. A text or an object can be the pair, by
its characters or its names. -/
def specializationEntry (position : Nat) (j : Json) : Except DecodeFault (Key × Attribute) := do
  match ← j.asList with
  | [k, v] =>
    match k.key? with
    | some k => return (k, v)
    | none => throw .wrongKind
  | items => throw (.notAPair position items.length)

def specializationOfJson : Json → Except DecodeFault (Table Key Attribute)
  | .object ms => .ok (.ofList (ms.map fun m => (.text m.1, m.2)))
  | j => do return .ofList (← (← j.asList).zipIdx.mapM fun e => specializationEntry e.2 e.1)

def Key.memberName : Key → String
  | .text s => s
  | k => k.toJson.compact

namespace FunctionDecl

def ofJson (j : Json) : Except DecodeFault FunctionDecl := do
  let ms ← j.asObject
  return {
    name := ← Json.required ms "name"
    returnType := ← Json.optional ms "return_type" CppType.ofJson (.ofSpelling "void")
    parameters := ← Json.optional ms "parameters"
      (fun ps => do (← ps.asList).mapM Parameter.ofJson) []
    kind := ← Json.optional ms "kind" FunctionKind.ofJson .free
    owner := Json.optionalValue ms "class_name" .null
    isConst := Json.flag ms "is_const"
    header := Json.optionalValue ms "header_file" ""
    location := Json.optionalValue ms "location" ""
    specialization := ← Json.optional ms "template_specialization" specializationOfJson {}
    usr := Json.optionalValue ms "usr" "" }

def toJson (f : FunctionDecl) : Json := .object [
  ("name", f.name),
  ("qualified_name", if f.owner.isTruthy then .string f.qualifiedName else f.name),
  ("kind", .string f.kind.name),
  ("class_name", f.owner),
  ("is_const", .bool f.isConst),
  ("return_type", f.returnType.toJson),
  ("parameters", .array (f.parameters.map (·.toJson))),
  ("header_file", f.header),
  ("location", f.location),
  ("template_specialization",
    .object (f.specialization.entries.map fun e => (e.1.memberName, e.2))),
  ("cpp_signature", .string f.signature),
  ("usr", f.usr)]

end FunctionDecl

namespace FieldDecl

def ofJson (j : Json) : Except DecodeFault FieldDecl := do
  let ms ← j.asObject
  return {
    name := ← Json.required ms "name"
    type := ← declaredType ms
    owner := ← Json.required ms "class_name"
    header := Json.optionalValue ms "header_file" ""
    location := Json.optionalValue ms "location" "" }

def toJson (f : FieldDecl) : Json := .object [
  ("name", f.name),
  ("cpp_type", f.type.toJson),
  ("class_name", f.owner),
  ("header_file", f.header),
  ("location", f.location)]

end FieldDecl

end ScriptGlue

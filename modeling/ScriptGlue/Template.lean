import ScriptGlue.Json.Decode
import ScriptGlue.Text.Find

namespace ScriptGlue

namespace Json

/-- The kind of a value as messages name it. -/
def kindName : Json → String
  | .null => "None"
  | .bool _ => "bool object"
  | .integer _ => "int object"
  | .float _ => "float object"
  | .string _ => "str object"
  | .array _ => "list object"
  | .object _ => "dict object"

end Json

inductive TemplateRef where
  | named (name : String)
  | member (owner field : String)

inductive TemplateFault where
  | undefinedVariable (name : String)
  | undefinedMember (owner : String) (field : String)
  | notAList
  /-- The context has a value under the name of the template itself. -/
  | reservedName
  /-- The engine for the templates of the user gives no text, and says why. -/
  | engine (reason : String)

def TemplateFault.message : TemplateFault → String
  | .undefinedVariable name => Text.quoted name ++ " is undefined"
  | .undefinedMember owner field => Text.quoted owner ++ " has no attribute " ++ Text.quoted field
  | .engine reason => reason
  | .notAList | .reservedName => ""

/-- The values a template can refer to, the innermost first. -/
abbrev TemplateScope := List (String × Json)

inductive Template where
  | done
  | text (s : String) (rest : Template)
  | put (value : TemplateRef) (rest : Template)
  | joined (list : TemplateRef) (separator : String) (rest : Template)
  | each (item : String) (list : TemplateRef) (body rest : Template)
  | choose (condition : TemplateRef) (yes no rest : Template)
  /-- A template of the user, as what its engine makes of a context. -/
  | foreign (run : TemplateScope → Except TemplateFault String)

namespace Template

def builtins : TemplateScope := [("namespace", .string "<class 'jinja2.utils.Namespace'>")]

def lookupName (scope : TemplateScope) (name : String) : Except TemplateFault Json :=
  match scope.lookup name <|> builtins.lookup name with
  | some v => .ok v
  | none => .error (.undefinedVariable name)

def lookup (scope : TemplateScope) : TemplateRef → Except TemplateFault Json
  | .named name => lookupName scope name
  | .member owner field => do
    let value ← lookupName scope owner
    match value.member? field with
    | some v => .ok v
    | none => .error (.undefinedMember value.kindName field)

def listOf (scope : TemplateScope) (r : TemplateRef) : Except TemplateFault (List Json) := do
  match (← lookup scope r).asList with
  | .ok xs => .ok xs
  | .error _ => .error .notAList

/-- A value that is not there is a fault and not an empty text. -/
def render (scope : TemplateScope) : Template → Except TemplateFault String
  | .done => .ok ""
  | .text s rest => do return s ++ (← render scope rest)
  | .put r rest => do
    let v ← lookup scope r
    return v.shown ++ (← render scope rest)
  | .joined r separator rest => do
    let xs ← listOf scope r
    return separator.intercalate (xs.map Json.shown) ++ (← render scope rest)
  | .each item r body rest => do
    let xs ← listOf scope r
    let parts ← xs.mapM fun x => render ((item, x) :: scope) body
    return String.join parts ++ (← render scope rest)
  | .choose condition yes no rest => do
    let chosen ←
      if (← lookup scope condition).isTruthy then render scope yes else render scope no
    return chosen ++ (← render scope rest)
  | .foreign run => run scope

/-- The text of a template in a context, which is handed over by names. -/
def renderWith (context : TemplateScope) (t : Template) : Except TemplateFault String :=
  if context.any (·.1 == "self") then .error .reservedName else t.render context

end Template

end ScriptGlue

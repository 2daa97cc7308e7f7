import ScriptGlue.Run

namespace ScriptGlue

namespace Template

def wrapper : Template :=
  .choose (.named "guard_macro")
    (.text "#ifdef " <| .put (.named "guard_macro") <| .text "\n" .done) .done <|
  .choose (.named "location")
    (.text "// " <| .put (.named "location") <| .text "\n" .done) .done <|
  .text "static " <|
  .put (.named "return_type") <|
  .text " " <|
  .put (.named "name") <|
  .text "(" <|
  .joined (.named "params") ", " <|
  .text ")\n\x7b\n" <|
  .each "line" (.named "param_glue")
    (.text "    " <| .put (.named "line") <| .text "\n" .done) <|
  .text "    " <|
  .put (.named "result_binding") <|
  .put (.named "callee") <|
  .text "(" <|
  .joined (.named "args") ", " <|
  .text ");\n" <|
  .choose (.named "return_glue")
    (.text "    " <| .put (.named "return_glue") <| .text "\n" .done)
    (.choose (.named "returns_void") .done (.text "    return result;\n" .done) .done) <|
  .text "\x7d\n" <|
  .choose (.named "guard_macro") (.text "#endif\n" .done) .done
  .done

def includeLine (name : String) : Template :=
  .text "#include \"" <| .put (.named name) <| .text "\"\n" .done

def registration : Template :=
  .choose (.member "reg" "guard_macro")
    (.text "#ifdef " <| .put (.member "reg" "guard_macro") <| .text "\n" .done) .done <|
  .choose (.member "reg" "comment")
    (.text "    // " <| .put (.member "reg" "comment") <| .text "\n" .done) .done <|
  .each "statement" (.member "reg" "statements")
    (.text "    " <| .put (.named "statement") <| .text "\n" .done) <|
  .choose (.member "reg" "guard_macro") (.text "#endif\n" .done) .done <|
  .text "\n" .done

/-- The generated source: includes, wrappers, and the function that registers everything. -/
def bindings : Template :=
  .text "// This file is generated by the AngelScript binding generator. Do not edit.\n\n" <|
  .each "include" (.named "includes") (includeLine "include") <|
  .each "header" (.named "headers") (includeLine "header") <|
  .text "\nnamespace " <|
  .put (.named "namespace") <|
  .text "\n\x7b\n\n" <|
  .each "wrapper" (.named "wrappers") (.put (.named "wrapper") <| .text "\n\n" .done) <|
  .text "void " <|
  .put (.named "register_function") <|
  .text "(asIScriptEngine* engine)\n\x7b\n" <|
  .each "reg" (.named "registrations") registration <|
  .text "\x7d\n\n\x7d // namespace " <|
  .put (.named "namespace")
  .done

def wrapperName : String := "wrapper.cpp.j2"

def bindingsName : String := "bindings.cpp.j2"

end Template

/-- The engine that renders the templates of the user. It is no part of the generator. All that is
known of it is what it is asked for, the template at a path in a context, with all files of the user
at hand since one template can take in another, and that it gives a text or a reason why there is
none: a tag that does not parse, a value that is not there. It changes no file. -/
structure TemplateEngine where
  render : List (List String × String) → List String → TemplateScope → Except String String

namespace TemplateEngine

def openers : List String := ["\x7b\x7b", "\x7b%", "\x7b#"]

/-- A text without any of these stands for itself, but for the line break that ends it. -/
def plainText? (s : String) : Option String :=
  let lines := Text.unixLines s.toList
  if openers.any (Text.contains s) then none
  else some (String.ofList (if lines.getLast? == some '\n' then lines.dropLast else lines))

/-- An engine for texts without tags only, to run with where no other is given. -/
def plain : TemplateEngine where
  render files path _ :=
    match (files.lookup path).bind plainText? with
    | some text => .ok text
    | none => .error "only templates without tags are rendered"

end TemplateEngine

/-- The templates of the user, as texts under their paths, and what renders them. -/
structure TemplateLibrary where
  overrides : List (List String × String) := []
  engine : TemplateEngine := .plain

namespace TemplateLibrary

def packaged : TemplateLibrary := {}

/-- The path that a template name stands for. A name that leaves its directory stands for none. -/
def pathOf? (name : String) : Option (List String) :=
  let segments := (name.toList.splitOn '/').map String.ofList
  if segments.contains ".." then none
  else some (segments.filter fun s => !s.isEmpty && s != ".")

def find? (l : TemplateLibrary) (name : String) : Option Template := do
  let path ← pathOf? name
  if (l.overrides.lookup path).isSome then
    some (.foreign fun scope => (l.engine.render l.overrides path scope).mapError .engine)
  else if path == [Template.wrapperName] then some Template.wrapper
  else if path == [Template.bindingsName] then some Template.bindings
  else none

def render (l : TemplateLibrary) (name : String) (context : TemplateScope) : Except Fault String :=
  match l.find? name with
  | none => .error (.templateNotFound name)
  | some t => (t.renderWith context).mapError .template

end TemplateLibrary

end ScriptGlue

import ScriptGlue.Registration
import ScriptGlue.Report
import ScriptGlue.Run
import ScriptGlue.Template.Library
import ScriptGlue.Wrapper.Document

namespace ScriptGlue

structure GlueOptions where
  bindingsTemplate : String := Template.bindingsName
  namespaceName : Attribute := "Urho3D"
  registerFunction : Attribute := "ASRegisterGenerated"
  includes : List Attribute := ["../Precompiled.h", "../AngelScript/APITemplates.h"]
  /-- What is cut off the head of a header path in an include line. -/
  strippedHead : Attribute := ""
  signatureComments : Bool := true
  bindFields : Bool := true

structure Binding where
  entry : BoundEntry
  wrapperSource? : Option String := none
  registration : Registration

namespace Wrapper

def render (l : TemplateLibrary) (w : Wrapper) : Except Fault String := do
  let parts ← w.parts.mapError .parameterMismatch
  l.render Template.wrapperName parts.members

/-- The statements that register a function under a pointer. A static function is registered inside
the namespace of its class, which is left again. -/
def statements (f : FunctionDecl) (declaration pointer : String) (wrapped : Bool) :
    List RegistrationStatement :=
  match f.kind with
  | .method =>
    [.objectMethod f.owner.shown declaration pointer (if wrapped then .objectFirst else .thisCall)]
  | .static => [.setNamespace f.owner.shown, .globalFunction declaration pointer, .setNamespace ""]
  | .free => [.globalFunction declaration pointer]

def bind (l : TemplateLibrary) (o : GlueOptions) (w : Wrapper) : Except Fault Binding := do
  let (pointer, source?) ←
    if w.isNeeded then do
      pure ("asFUNCTION(" ++ w.name ++ ")", some (← w.render l))
    else do
      pure (← w.function.registrationExpression.mapError .replacement, none)
  return {
    entry := {
      declaration := w.function.signature
      script := w.scriptDeclaration
      wrapper? := if w.isNeeded then some w.name else none
      registration? := some pointer }
    wrapperSource? := source?
    registration := {
      statements := statements w.function w.scriptDeclaration pointer w.isNeeded
      guard? := w.guard?
      comment? := if o.signatureComments then some w.function.signature else none } }

end Wrapper

namespace FieldDecl

def bind (c : Catalog) (o : GlueOptions) (f : FieldDecl) : Except Rejection Binding := do
  let type ← c.scriptDeclaration f.type .result
  let declaration := type ++ " " ++ f.name.shown
  return {
    entry := { declaration := f.signature, script := declaration }
    registration := {
      statements := [.objectProperty f.owner.shown declaration f.name.shown]
      guard? := c.conventions.guardFor? f.header
      comment? := if o.signatureComments then some f.signature else none } }

/-- The field can neither be bound nor be refused, because an attribute is no text where one is
needed. -/
def isMisfit (c : Catalog) (f : FieldDecl) : Bool :=
  c.isDeclarationStuck f.type .result ||
    ((c.scriptDeclaration f.type .result).isOk && !f.header.isTextOrEmpty)

end FieldDecl

/-- A wrapper that is not generated because an earlier one has its name. -/
structure NameClash where
  position : Nat
  wrapper : String
  dropped : String
  kept : String

namespace Inputs

def attempts (i : Inputs) : List (FunctionDecl × Except Rejection Wrapper) :=
  i.functions.map fun f => (f, Wrapper.build i.catalog f)

def rejected (i : Inputs) : List (FunctionDecl × Rejection) :=
  i.attempts.filterMap fun a =>
    match a.2 with
    | .error r => some (a.1, r)
    | .ok _ => none

/-- The functions that convert, in their order and each with its position among them. -/
def converted (i : Inputs) : List (Wrapper × Nat) :=
  (i.attempts.filterMap fun a => a.2.toOption).zipIdx

/-- Where the wrappers of several functions would share a name although their signatures are not all
the same, all but the first of them are dropped. A function that is registered directly takes no
name. -/
def clashes (i : Inputs) : List NameClash :=
  let groups := FunctionDecl.collisions (fun w : Wrapper × Nat => w.1.function)
    (i.converted.filter fun w => w.1.isNeeded)
  groups.flatMap fun g =>
    match g.2 with
    | [] => []
    | kept :: dropped => dropped.map fun w =>
      ⟨w.2, g.1, w.1.function.signature, kept.1.function.signature⟩

def selected (i : Inputs) : List Wrapper :=
  let dropped := i.clashes.map (·.position)
  (i.converted.filter fun w => !dropped.contains w.2).map (·.1)

def givenHeaders (i : Inputs) : List Attribute :=
  (i.functions.map (·.header) ++ i.fields.map (·.header)).filter (·.isTruthy)

def headers (i : Inputs) (head : Attribute) : List Attribute :=
  (i.givenHeaders.map (·.withoutHead head)).eraseDups

def fieldAttempts (i : Inputs) (o : GlueOptions) : List (FieldDecl × Except Rejection Binding) :=
  if o.bindFields then i.fields.map fun f => (f, f.bind i.catalog o) else []

def refusedFields (i : Inputs) (o : GlueOptions) : List (String × Rejection) :=
  (i.fieldAttempts o).filterMap fun a =>
    match a.2 with
    | .error r => some (a.1.signature, r)
    | .ok _ => none

def boundFields (i : Inputs) (o : GlueOptions) : List Binding :=
  (i.fieldAttempts o).filterMap fun a => a.2.toOption

def functionNotices (i : Inputs) : List Notice :=
  i.rejected.map (fun r => .functionSkipped r.1.signature r.2) ++
    i.clashes.map fun c => .nameTaken c.wrapper c.dropped c.kept

def fieldNotices (i : Inputs) (o : GlueOptions) : List Notice :=
  (i.refusedFields o).map fun r => .fieldSkipped r.1 r.2

def skips (i : Inputs) (o : GlueOptions) : List SkipEntry :=
  i.rejected.map (fun r => .ofRejection r.1.signature r.2) ++
    (i.clashes.map fun c => .ofCollision c.dropped c.wrapper c.kept) ++
    (i.refusedFields o).map fun r => .ofRejection r.1 r.2

/-- Stops at a function that can neither be bound nor refused, after telling of the functions that
are refused before it. -/
def checkFunctions (i : Inputs) : Run Unit := do
  let fits (f : FunctionDecl) : Bool := !Wrapper.isMisfit i.catalog f
  if i.functions.all fits then return ()
  else do
    let before : Inputs := { i with functions := i.functions.takeWhile fits }
    Run.tellAll (before.rejected.map fun r => .functionSkipped r.1.signature r.2)
    Run.stop (.decode .wrongKind)

def checkFields (i : Inputs) (o : GlueOptions) : Run Unit := do
  let fits (f : FieldDecl) : Bool := !f.isMisfit i.catalog
  if !o.bindFields || i.fields.all fits then return ()
  else do
    let before : Inputs := { i with fields := i.fields.takeWhile fits }
    Run.tellAll (before.fieldNotices o)
    Run.stop (.decode .wrongKind)

def checkHeaders (i : Inputs) (o : GlueOptions) : Run Unit :=
  let fits (h : Attribute) : Bool := h.isText && o.strippedHead.isText
  if !o.strippedHead.isTruthy || i.givenHeaders.all fits then return ()
  else Run.stop (.decode .wrongKind)

end Inputs

structure Glue where
  bindings : List Binding
  report : Report
  text : String

namespace Glue

def scope (o : GlueOptions) (headers : List Attribute) (bindings : List Binding) :
    TemplateScope := [
  ("includes", .array o.includes),
  ("headers", .array headers),
  ("namespace", o.namespaceName),
  ("register_function", o.registerFunction),
  ("wrappers", .strings (bindings.filterMap (·.wrapperSource?))),
  ("registrations", .array (bindings.map fun b => b.registration.toJson))]

/-- Binds the functions and then the fields, and renders the source. The templates are those that
are found after the given notices have been told. -/
def generate (templates : List Notice → TemplateLibrary) (o : GlueOptions) (i : Inputs) :
    Run Glue := do
  i.checkFunctions
  Run.tellAll i.functionNotices
  let functions ← Run.ofExcept id (i.selected.mapM fun w => w.bind (templates i.functionNotices) o)
  i.checkFields o
  Run.tellAll (i.fieldNotices o)
  let bindings := functions ++ i.boundFields o
  i.checkHeaders o
  let text ← Run.ofExcept id
    ((templates (i.functionNotices ++ i.fieldNotices o)).render o.bindingsTemplate
      (scope o (i.headers o.strippedHead) bindings))
  return {
    bindings
    report := { bound := bindings.map (·.entry), skipped := i.skips o }
    text }

end Glue

end ScriptGlue

import ScriptGlue.Catalog
import ScriptGlue.Conventions
import ScriptGlue.CppType
import ScriptGlue.Table
import ScriptGlue.Text.Find
import ScriptGlue.Text.Word

namespace ScriptGlue

inductive Shape where
  | void
  | stringSequence
  | context
  | singleOwner (element : String)
  | singleOwnerSequence (element : String)
  | pointerSequence (element : String)
  | valueSequence (element : String)
  | plain
  deriving DecidableEq

namespace Shape

/-- The word between two texts, if the name is the two around one word and nothing else. -/
def wordBetween? (opening closing : String) (name : String) : Option String := do
  let rest ← opening.toList.isPrefixOf? name.toList
  let word ← closing.toList.isSuffixOf? rest
  if !word.isEmpty && word.all Text.isWord then some (String.ofList word) else none

/-- The element type of a template shape is a single identifier, so a nested template is plain
unless it is a list of single owners. -/
def ofName (c : Conventions) (name : String) : Shape :=
  if name == "void" then .void
  else if c.stringSequences.contains name then .stringSequence
  else if name == c.contextType then .context
  else if let some e := wordBetween? (c.singleOwner ++ "<") ">" name then .singleOwner e
  else if let some e :=
      wordBetween? (c.handleSequence ++ "<" ++ c.singleOwner ++ "<") ">>" name then
    .singleOwnerSequence e
  else if let some e := wordBetween? (c.valueSequence ++ "<") "*>" name then .pointerSequence e
  else if let some e := wordBetween? (c.valueSequence ++ "<") ">" name then .valueSequence e
  else .plain

def classify (c : Conventions) (t : CppType) : Shape := ofName c t.name

def element? : Shape → Option String
  | singleOwner e | singleOwnerSequence e | pointerSequence e | valueSequence e => some e
  | _ => none

end Shape

namespace DefaultValue

def spellings : Table String String := ⟨[
  ("nullptr", "null"),
  ("Variant::emptyVariantMap", "VariantMap()"),
  ("NPOS", "String::NPOS")]⟩

def toScript (value : String) : String := (spellings.get? value).getD value

/-- Declarations stand inside C++ string literals, so a double quote takes a backslash. -/
def escapeQuotes (s : String) : String := String.ofList (Text.replaceAll "\"" "\\\"" s.toList)

def declarationText (value : String) : String := escapeQuotes (toScript value)

end DefaultValue

structure Conversion where
  declaration : String
  /-- What stands for the type in the wrapper, where the runtime can not pass the type itself: a
  type for a result, and a type with a name for a parameter. -/
  nativeOverride? : Option String := none
  /-- One C++ statement. For a parameter it declares a local with the name of the parameter; for a
  result it returns. -/
  glue? : Option String := none
  deriving DecidableEq

namespace Conversion

def needsWrapper (c : Conversion) : Bool :=
  c.nativeOverride?.any (!·.isEmpty) || c.glue?.any (!·.isEmpty)

end Conversion

namespace Catalog

def rejectQualifierShape (t : CppType) : Except Rejection Unit :=
  if t.isRvalueReference || t.isDoublePointer || t.isReferenceToPointer then
    .error (.qualifierShape t)
  else .ok ()

def rejectDenylisted (c : Catalog) (t : CppType) (element : String) : Except Rejection Unit :=
  if c.conventions.ownershipDenylist.contains element then .error (.ownershipTransfer t element)
  else .ok ()

def rejectDefault (t : CppType) (default : Attribute) : Except Rejection Unit :=
  if default.isTruthy then .error (.defaultValue t default) else .ok ()

/-- The name of the script array that stands for a parameter until it is converted. -/
def convertedName (c : Catalog) (name : String) : String := name ++ c.conventions.convertedSuffix

def arrayResult (c : Catalog) (element call : String) : Conversion where
  declaration := "Array<" ++ element ++ ">@"
  nativeOverride? := c.conventions.scriptArray
  glue? := "return " ++ call ++ "(result, \"Array<" ++ element ++ ">\");"

/-- A parameter that comes as a script array and is converted by `call` into a local. -/
def arrayParameter (c : Catalog) (t : CppType) (name declaration call : String) : Conversion where
  declaration
  nativeOverride? := c.conventions.scriptArray ++ " " ++ c.convertedName name
  glue? := t.name ++ " " ++ name ++ " = " ++ call ++ "(" ++ c.convertedName name ++ ");"

/-- The rule for a result of a shape of its own. No answer leaves the type to the general rules. -/
def resultRule (c : Catalog) (t : CppType) : Shape → Except Rejection (Option Conversion)
  | .void => .ok (if t.isPointer then none else some { declaration := "void" })
  | .stringSequence =>
    .ok (if t.isPointer then none else some (c.arrayResult "String" "VectorToArray<String>"))
  | .context => .error (.contextResult t)
  | .singleOwner e => do
    c.rejectDenylisted t e
    return some {
      declaration := Primitive.scriptName e ++ "@+"
      nativeOverride? := e ++ "*"
      glue? := "return result.Detach();" }
  | .singleOwnerSequence e => do
    c.rejectDenylisted t e
    return some (c.arrayResult (Primitive.scriptName e ++ "@") "VectorToHandleArray")
  | .pointerSequence e =>
    .ok (some (c.arrayResult (Primitive.scriptName e ++ "@") "VectorToHandleArray"))
  | .valueSequence e =>
    .ok (if t.isConst == t.isReference then
      some (c.arrayResult (Primitive.scriptName e) "VectorToArray")
    else none)
  | .plain => .ok none

/-- The rule for a parameter of a shape of its own; only a constant reference has one. -/
def parameterRule (c : Catalog) (t : CppType) (name : String) (default : Attribute) :
    Shape → Except Rejection (Option Conversion)
  | .context => .error (.contextParameter t)
  | .stringSequence =>
    .ok (if some t.name == c.conventions.stringSequences.head? && t.isConst && t.isReference then
      some (c.arrayParameter t name
        ("Array<String>@+" ++ if default.isTruthy then " = null" else "") "ArrayToVector<String>")
    else none)
  | .singleOwnerSequence e =>
    if t.isConst && t.isReference then do
      c.rejectDenylisted t e
      rejectDefault t default
      return some (c.arrayParameter t name ("Array<" ++ Primitive.scriptName e ++ "@>@+")
        ("HandleArrayToVector<" ++ e ++ ">"))
    else .ok none
  | .pointerSequence e =>
    if t.isConst && t.isReference then do
      rejectDefault t default
      return some (c.arrayParameter t name ("Array<" ++ Primitive.scriptName e ++ "@>@")
        ("ArrayToPODVector<" ++ e ++ "*>"))
    else .ok none
  | .valueSequence e =>
    if t.isConst && t.isReference then do
      rejectDefault t default
      return some (c.arrayParameter t name ("Array<" ++ Primitive.scriptName e ++ ">@+")
        ("ArrayToPODVector<" ++ e ++ ">"))
    else .ok none
  | .void | .singleOwner _ | .plain => .ok none

def referenceOrHandle (c : Catalog) (t : CppType) : Except Rejection String :=
  if t.isReference then .ok (Primitive.scriptName t.name ++ "&")
  else if t.isPointer then
    if c.supportsHandles t.name then .ok (Primitive.scriptName t.name ++ "@+")
    else .error (.pointerOwnership t c.conventions.fakeRefMarker)
  else .ok (Primitive.scriptName t.name)

def generalDeclaration (c : Catalog) (t : CppType) (usage : Usage) (default : Attribute) :
    Except Rejection String := do
  if t.name == c.conventions.contextType && usage == .result then throw (.contextResult t)
  c.requireBindable t
  if Primitive.scriptName t.name == "void" && t.isPointer then throw (.unbindable .voidPointer t)
  if Text.contains (Primitive.scriptName t.name) "<" then throw (.unbindable .templateResidue t)
  let declaration ←
    if t.isConst && t.isReference && usage == .parameter then
      pure ("const " ++ Primitive.scriptName t.name ++ "&in")
    else do
      let d ← c.referenceOrHandle t
      pure (if usage == .result && t.isConst && !t.isPointer then "const " ++ d else d)
  return if default.isTruthy then
    declaration ++ " = " ++ DefaultValue.declarationText default.shown
  else declaration

def shapeRule (c : Catalog) (t : CppType) (name : String) (usage : Usage) (default : Attribute) :
    Except Rejection (Option Conversion) := do
  rejectQualifierShape t
  let shape := Shape.classify c.conventions t
  match usage with
  | .result => c.resultRule t shape
  | .parameter => c.parameterRule t name default shape

/-- Converts one occurrence of a type. An empty default value counts as none. -/
def convert (c : Catalog) (t : CppType) (name : String) (usage : Usage)
    (default : Attribute := .null) : Except Rejection Conversion := do
  match ← c.shapeRule t name usage default with
  | some conversion => return conversion
  | none => return { declaration := ← c.generalDeclaration t usage default }

def scriptDeclaration (c : Catalog) (t : CppType) (usage : Usage) : Except Rejection String := do
  rejectQualifierShape t
  c.generalDeclaration t usage .null

/-- The general rules would have to judge a type on which no verdict can be given. -/
def isGenerallyUndecided (c : Catalog) (t : CppType) (usage : Usage) : Bool :=
  !(t.name == c.conventions.contextType && usage == .result) && c.isUndecided t.name

def isStuck (c : Catalog) (t : CppType) (name : String) (usage : Usage) (default : Attribute) :
    Bool :=
  match c.shapeRule t name usage default with
  | .ok none => c.isGenerallyUndecided t usage
  | _ => false

def isDeclarationStuck (c : Catalog) (t : CppType) (usage : Usage) : Bool :=
  (rejectQualifierShape t).isOk && c.isGenerallyUndecided t usage

/-- Where a conversion declares a local, the name has to be a text, and where it translates the
default value, that has to be one. -/
def fits (c : Catalog) (t : CppType) (name : Attribute) (usage : Usage) (default : Attribute) :
    Bool :=
  match c.shapeRule t name.shown usage default with
  | .error _ => true
  | .ok none => default.isTextOrEmpty
  | .ok (some _) => usage == .result || name.isText

end Catalog

end ScriptGlue

import ScriptGlue.Catalog
import ScriptGlue.Declaration.Document
import ScriptGlue.Run

namespace ScriptGlue

/-- The items of a list, each read by `read`; a list that is not there is empty. -/
def readList {α : Type} (ms : List (String × Json)) (field : String)
    (read : Json → Except DecodeFault α) : Except DecodeFault (List α) :=
  Json.optional ms field (fun j => do (← j.asList).mapM read) []

namespace ClassDecl

def ofJson (j : Json) : Except DecodeFault ClassDecl := do
  let ms ← j.asObject
  return {
    name := ← Json.required ms "name"
    id := Json.optionalValue ms "id" ""
    isInternal := Json.flag ms "is_internal"
    isRefCounted := Json.flag ms "is_ref_counted"
    comment := Json.optionalValue ms "comment" ""
    header := Json.optionalValue ms "header_file" ""
    bases := ← Json.optional ms "bases" Json.asList [] }

def toJson (c : ClassDecl) : Json := .object [
  ("name", c.name),
  ("id", c.id),
  ("is_internal", .bool c.isInternal),
  ("is_ref_counted", .bool c.isRefCounted),
  ("comment", c.comment),
  ("header_file", c.header),
  ("bases", .array c.bases)]

end ClassDecl

namespace EnumDecl

def ofJson (j : Json) : Except DecodeFault EnumDecl := do
  let ms ← j.asObject
  return {
    name := ← Json.required ms "name"
    values := ← Json.optional ms "values" Json.asList []
    header := Json.optionalValue ms "header_file" "" }

def toJson (e : EnumDecl) : Json := .object [
  ("name", e.name),
  ("values", .array e.values),
  ("header_file", e.header)]

end EnumDecl

namespace AliasDecl

def ofJson (j : Json) : Except DecodeFault AliasDecl := do
  let ms ← j.asObject
  return {
    name := ← Json.required ms "name"
    target := Json.optionalValue ms "target" "" }

def toJson (a : AliasDecl) : Json := .object [
  ("name", a.name),
  ("target", a.target)]

end AliasDecl

structure CatalogEntries where
  classes : List ClassDecl := []
  enums : List EnumDecl := []
  aliases : List AliasDecl := []

namespace CatalogEntries

def ofJson (j : Json) : Except DecodeFault CatalogEntries := do
  let ms ← j.asObject
  return {
    classes := ← readList ms "classes" ClassDecl.ofJson
    enums := ← readList ms "enums" EnumDecl.ofJson
    aliases := ← readList ms "usings" AliasDecl.ofJson }

/-- The classes before the first one that no table can take, because its name is no key or because
it is the first of its name and has an identity that is none. -/
def indexable (seen : List Key) : List ClassDecl → List ClassDecl
  | [] => []
  | c :: cs =>
    match c.name.key? with
    | some k =>
      if seen.contains k then c :: indexable seen cs
      else if c.id.key?.isSome || !c.id.isTruthy then c :: indexable (k :: seen) cs
      else []
    | none => []

def isIndexable (e : CatalogEntries) : Bool :=
  (indexable [] e.classes).length == e.classes.length &&
    e.enums.all (·.name.key?.isSome) && e.aliases.all (·.name.key?.isSome)

def build (e : CatalogEntries) (conventions : Conventions) : Catalog :=
  .build conventions e.classes e.enums e.aliases

end CatalogEntries

namespace Catalog

def members (c : Catalog) : List (String × Json) := [
  ("classes", .array (c.classes.values.map (·.toJson))),
  ("enums", .array (c.enums.values.map (·.toJson))),
  ("usings", .array (c.aliases.values.map (·.toJson)))]

def toJson (c : Catalog) : Json := .object c.members

end Catalog

namespace Inputs

def toJson (i : Inputs) : Json := .object (i.catalog.members ++ [
  ("functions", .array (i.functions.map (·.toJson))),
  ("fields", .array (i.fields.map (·.toJson)))])

/-- What a document that was found under a path describes. -/
def ofDocument (conventions : Conventions) (path : Path) (document : Json) : Run Inputs := do
  let entries ← Run.ofExcept .decode (CatalogEntries.ofJson document)
  let indexed := CatalogEntries.indexable [] entries.classes
  Run.tellAll ((Catalog.shadowed [] indexed).map .shadowedClass)
  if !entries.isIndexable then Run.stop (.decode .wrongKind)
  let catalog := entries.build conventions
  let ms ← Run.ofExcept .decode document.asObject
  let functions ← Run.ofExcept .decode (readList ms "functions" FunctionDecl.ofJson)
  let fields ← Run.ofExcept .decode (readList ms "fields" FieldDecl.ofJson)
  Run.tell (.catalogLoaded catalog.text functions.length fields.length path)
  return { catalog, functions, fields }

def ofText (conventions : Conventions) (path : Path) (text : String) : Run Inputs :=
  match Json.read text with
  | .ok document => ofDocument conventions path document
  | .error f => Run.stop (.catalogText f)

def load (conventions : Conventions) (t : FileTree) (here path : Path) : Run Inputs := do
  let text ← Run.ofExcept .file (t.read (here.join path))
  ofText conventions path text

end Inputs

end ScriptGlue

import ScriptGlue.Json
import ScriptGlue.Rejection

namespace ScriptGlue

structure BoundEntry where
  declaration : String
  script : String
  wrapper? : Option String := none
  registration? : Option String := none

structure Diagnosis where
  kind : String
  type : String
  reason? : Option String := none

structure SkipEntry where
  declaration : String
  message : String
  diagnosis? : Option Diagnosis := none

structure Report where
  bound : List BoundEntry := []
  skipped : List SkipEntry := []

def Rejection.diagnosis (r : Rejection) : Diagnosis where
  kind := r.kind
  type := r.type.spelling
  reason? := r.reason?.map (·.text)

namespace SkipEntry

def ofRejection (declaration : String) (r : Rejection) : SkipEntry :=
  ⟨declaration, r.message, some r.diagnosis⟩

def ofCollision (declaration wrapper kept : String) : SkipEntry where
  declaration
  message := "wrapper name " ++ wrapper ++ " collides with " ++ kept

def toJson (s : SkipEntry) : Json :=
  match s.diagnosis? with
  | none => .object [("declaration", .string s.declaration), ("message", .string s.message)]
  | some d => .object ([
      ("declaration", .string s.declaration),
      ("kind", .string d.kind),
      ("type", .string d.type),
      ("message", .string s.message)] ++
      d.reason?.toList.map fun r => ("reason", .string r))

end SkipEntry

def BoundEntry.toJson (b : BoundEntry) : Json := .object ([
  ("declaration", .string b.declaration),
  ("script_declaration", .string b.script),
  ("wrapper", .ofOption b.wrapper?)] ++
  b.registration?.toList.map fun r => ("registration", .string r))

namespace Report

def summary (bound skipped : List Json) : Json := .object [
  ("bound_count", .ofNat bound.length),
  ("skipped_count", .ofNat skipped.length),
  ("bound", .array bound),
  ("skipped", .array skipped)]

def toJson (r : Report) : Json :=
  summary (r.bound.map (·.toJson)) (r.skipped.map (·.toJson))

end Report

end ScriptGlue

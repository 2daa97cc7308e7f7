import ScriptGlue.Json

namespace ScriptGlue

inductive DecodeFault where
  | missing (field : String)
  /-- A name is not one of those that are allowed; null is shown as no name at all. -/
  | notMember (shown : String)
  /-- An item of a list that stands for an object is no pair. -/
  | notAPair (position size : Nat)
  | wrongKind
  deriving DecidableEq

def DecodeFault.message : DecodeFault → String
  | .missing field => Text.quoted field
  | .notMember shown => shown
  | .notAPair position size =>
    "dictionary update sequence element #" ++ toString position ++ " has length " ++
      toString size ++ "; 2 is required"
  | .wrongKind => ""

namespace Json

def asObject : Json → Except DecodeFault (List (String × Json))
  | .object ms => .ok ms
  | _ => .error .wrongKind

def asText : Json → Except DecodeFault String
  | .string s => .ok s
  | _ => .error .wrongKind

/-- The elements of a list. A string is the list of its characters, and an object that of its
names. -/
def asList : Json → Except DecodeFault (List Json)
  | .array xs => .ok xs
  | .string s => .ok (s.toList.map fun c => .string c.toString)
  | .object ms => .ok (ms.map fun m => .string m.1)
  | _ => .error .wrongKind

def asTexts (j : Json) : Except DecodeFault (List String) := do (← j.asList).mapM asText

def required (ms : List (String × Json)) (field : String) : Except DecodeFault Json :=
  match ms.lookup field with
  | some v => .ok v
  | none => .error (.missing field)

def optional {α : Type} (ms : List (String × Json)) (field : String)
    (read : Json → Except DecodeFault α) (default : α) : Except DecodeFault α :=
  match ms.lookup field with
  | some v => read v
  | none => .ok default

def optionalValue (ms : List (String × Json)) (field : String) (default : Json) : Json :=
  (ms.lookup field).getD default

def flag (ms : List (String × Json)) (field : String) : Bool :=
  (ms.lookup field).any isTruthy

def memberName : Json → Except DecodeFault String
  | .string s => .ok s
  | .array _ | .object _ => .error .wrongKind
  | j => .error (.notMember j.shown)

end Json

end ScriptGlue

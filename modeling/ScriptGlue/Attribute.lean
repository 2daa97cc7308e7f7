import ScriptGlue.Json
import ScriptGlue.Text.Find

namespace ScriptGlue

inductive Key where
  | null
  | bool (b : Bool)
  | integer (n : Int)
  | float (x : Binary64)
  | text (s : String)
  deriving DecidableEq

namespace Key

instance : Coe String Key := ⟨.text⟩

def toJson : Key → Json
  | null => .null
  | bool b => .bool b
  | integer n => .integer n
  | float x => .float x
  | text s => .string s

end Key

namespace Json

def key? : Json → Option Key
  | .null => some .null
  | .bool b => some (.bool b)
  | .integer n => some (.integer n)
  | .float x => some (.float x)
  | .string s => some (.text s)
  | .array _ => none
  | .object _ => none

end Json

/-- What a document gives for an attribute. A value that is no text is kept as it came, and stands
in generated text the way a template shows it. -/
abbrev Attribute := Json

namespace Json

instance : Coe String Json := ⟨.string⟩

def isText : Json → Bool
  | .string _ => true
  | _ => false

def isTextOrEmpty (a : Json) : Bool := a.isText || !a.isTruthy

@[simp] theorem isTruthy_string (s : String) : (Json.string s).isTruthy = !s.isEmpty := rfl

/-- A mark can be looked for in the value: in a text, among the items of a list or among the names
of an object. -/
def isSearchable : Json → Bool
  | .string _ | .array _ | .object _ => true
  | _ => false

/-- What is left after a head. Only a text has one, and only a text is one. -/
def withoutHead (j head : Json) : Json :=
  match j, head with
  | .string s, .string h => .string (((h.toList.isPrefixOf? s.toList).map String.ofList).getD s)
  | _, _ => j

def holdsMark (mark : String) : Json → Bool
  | .string s => Text.contains s mark
  | .array xs => xs.any fun x => x == .string mark
  | .object ms => ms.any (·.1 == mark)
  | _ => false

end Json

end ScriptGlue

import ScriptGlue.Binary64
import ScriptGlue.Binary64.Text
import ScriptGlue.Text.Quoting

namespace ScriptGlue

/-- A JSON value. A number that is written with a point or a power of ten is a binary one, and any
other is whole. -/
inductive Json where
  | null
  | bool (b : Bool)
  | integer (n : Int)
  | float (x : Binary64)
  | string (s : String)
  | array (items : List Json)
  | object (members : List (String × Json))

namespace Json

mutual

def equals : Json → Json → Bool
  | .null, .null => true
  | .bool a, .bool b => a == b
  | .integer m, .integer n => m == n
  | .float x, .float y => x == y
  | .string s, .string t => s == t
  | .array xs, .array ys => itemsEqual xs ys
  | .object ms, .object ns => membersEqual ms ns
  | _, _ => false

def itemsEqual : List Json → List Json → Bool
  | [], [] => true
  | x :: xs, y :: ys => equals x y && itemsEqual xs ys
  | _, _ => false

def membersEqual : List (String × Json) → List (String × Json) → Bool
  | [], [] => true
  | (k, x) :: ms, (l, y) :: ns => k == l && equals x y && membersEqual ms ns
  | _, _ => false

end

instance : BEq Json := ⟨equals⟩

instance : Inhabited Json := ⟨.null⟩

def isTruthy : Json → Bool
  | .null => false
  | .bool b => b
  | .integer n => n != 0
  | .float x => !x.isZero
  | .string s => !s.isEmpty
  | .array xs => !xs.isEmpty
  | .object ms => !ms.isEmpty

def ofNat (n : Nat) : Json := .integer n

def strings (xs : List String) : Json := .array (xs.map .string)

def ofOption : Option String → Json
  | none => .null
  | some s => .string s

def member? : Json → String → Option Json
  | .object ms, k => ms.lookup k
  | _, _ => none

mutual

theorem equals_iff : ∀ {a b : Json}, equals a b = true ↔ a = b
  | .null, b => by cases b <;> simp [equals]
  | .bool a, b => by cases b <;> simp [equals]
  | .integer m, b => by cases b <;> simp [equals]
  | .float x, b => by cases b <;> simp [equals]
  | .string s, b => by cases b <;> simp [equals]
  | .array xs, b => by
    cases b with
    | array ys => rw [equals, itemsEqual_iff, array.injEq]
    | _ => simp [equals]
  | .object ms, b => by
    cases b with
    | object ns => rw [equals, membersEqual_iff, object.injEq]
    | _ => simp [equals]

theorem itemsEqual_iff : ∀ {xs ys : List Json}, itemsEqual xs ys = true ↔ xs = ys
  | [], ys => by cases ys <;> simp [itemsEqual]
  | x :: xs, ys => by
    cases ys with
    | nil => simp [itemsEqual]
    | cons y ys => rw [itemsEqual, Bool.and_eq_true, equals_iff, itemsEqual_iff, List.cons.injEq]

theorem membersEqual_iff : ∀ {ms ns : List (String × Json)}, membersEqual ms ns = true ↔ ms = ns
  | [], ns => by cases ns <;> simp [membersEqual]
  | (k, x) :: ms, ns => by
    cases ns with
    | nil => simp [membersEqual]
    | cons n ns =>
      rw [membersEqual, Bool.and_eq_true, Bool.and_eq_true, equals_iff, membersEqual_iff,
        beq_iff_eq, List.cons.injEq, ← Prod.mk.injEq]

end

instance : LawfulBEq Json where
  eq_of_beq := equals_iff.1
  rfl := equals_iff.2 rfl

mutual

def display : Json → String
  | .null => "None"
  | .bool b => if b then "True" else "False"
  | .integer n => toString n
  | .float x => x.text
  | .string s => Text.quoted s
  | .array xs => "[" ++ ", ".intercalate (displayItems xs) ++ "]"
  | .object ms => "\x7b" ++ ", ".intercalate (displayMembers ms) ++ "\x7d"

def displayItems : List Json → List String
  | [] => []
  | x :: xs => display x :: displayItems xs

def displayMembers : List (String × Json) → List String
  | [] => []
  | (k, v) :: ms => (Text.quoted k ++ ": " ++ display v) :: displayMembers ms

end

def shown : Json → String
  | .string s => s
  | j => display j

@[simp] theorem shown_string (s : String) : (Json.string s).shown = s := rfl

end Json

end ScriptGlue

import ScriptGlue.Proofs.Rendering

namespace ScriptGlue

structure Variable where
  type : String
  name : String

def Variable.text (v : Variable) : String := v.type ++ " " ++ v.name

/-- What a wrapper gives back, made of the value of the function. -/
inductive ReturnValue where
  | itself
  /-- The reference of a handle, which is handed over. -/
  | detached
  | array (call element : String)

def ReturnValue.text : ReturnValue → String
  | itself => "result"
  | detached => "result.Detach()"
  | array call element => call ++ "(result, \"Array<" ++ element ++ ">\")"

inductive WrapperStatement where
  /-- Declares a variable with what a call makes of a script array. -/
  | convert (v : Variable) (call array : String)
  /-- Calls a function, of an object if there is one, and may keep its value. -/
  | forward (kept? : Option Variable) (object? : Option String) (function : String)
      (arguments : List String)
  | giveBack (value : ReturnValue)

namespace WrapperStatement

def text : WrapperStatement → String
  | convert v call array => v.text ++ " = " ++ call ++ "(" ++ array ++ ");"
  | forward kept? object? function arguments =>
    kept?.elim "" (·.text ++ " = ") ++ object?.elim "" (· ++ "->") ++ function ++
      "(" ++ ", ".intercalate arguments ++ ");"
  | giveBack value => "return " ++ value.text ++ ";"

def line (s : WrapperStatement) : String := "    " ++ s.text ++ "\n"

def declares : WrapperStatement → List String
  | convert v _ _ => [v.name]
  | forward kept? _ _ _ => (kept?.map (·.name)).toList
  | giveBack _ => []

def uses : WrapperStatement → List String
  | convert _ _ array => [array]
  | forward _ object? _ arguments => object?.toList ++ arguments
  | giveBack _ => ["result"]

def AreScoped (known : List String) : List WrapperStatement → Prop
  | [] => True
  | s :: rest => s.uses ⊆ known ∧ AreScoped (known ++ s.declares) rest

variable {known : List String} {xs ys : List WrapperStatement}

theorem areScoped_append : AreScoped known (xs ++ ys) ↔
    AreScoped known xs ∧ AreScoped (known ++ xs.flatMap declares) ys := by
  induction xs generalizing known with
  | nil => simp [AreScoped]
  | cons s xs ih => simp only [List.cons_append, AreScoped, ih, List.flatMap_cons,
      List.append_assoc, and_assoc]

theorem areScoped_of_uses (h : ∀ s ∈ xs, s.uses ⊆ known) : AreScoped known xs := by
  induction xs generalizing known with
  | nil => trivial
  | cons s xs ih =>
    rw [List.forall_mem_cons] at h
    refine ⟨h.1, ih fun s' hs' => ?_⟩
    exact List.Subset.trans (h.2 s' hs') (List.subset_append_left known s.declares)

theorem declares_forward (kept? : Option Variable) (object? : Option String) (function : String)
    (arguments : List String) :
    (forward kept? object? function arguments).declares = (kept?.map (·.name)).toList := rfl

theorem flatMap_declares_giveBack (values : List ReturnValue) :
    (values.map giveBack).flatMap declares = [] := by
  rw [List.flatMap_eq_nil_iff, List.forall_mem_map]
  exact fun _ _ => rfl

end WrapperStatement

structure WrapperCode where
  returnType : String
  name : String
  parameters : List Variable
  statements : List WrapperStatement

namespace WrapperCode

def text (k : WrapperCode) : String :=
  "static " ++ k.returnType ++ " " ++ k.name ++ "(" ++
    ", ".intercalate (k.parameters.map (·.text)) ++ ")\n\x7b\n" ++
    String.join (k.statements.map (·.line)) ++ "\x7d\n"

/-- The names in the scope of the function, in the order in which they are declared. -/
def declared (k : WrapperCode) : List String :=
  k.parameters.map (·.name) ++ k.statements.flatMap (·.declares)

def IsScoped (k : WrapperCode) : Prop :=
  WrapperStatement.AreScoped (k.parameters.map (·.name)) k.statements

end WrapperCode

end ScriptGlue

import ScriptGlue.Proofs.Emission

namespace ScriptGlue

theorem Primitive.not_mem_scriptName {name : String} (h : '=' ∉ name.toList) :
    '=' ∉ (scriptName name).toList :=
  scriptName_rel (P := fun name s => '=' ∉ name.toList → '=' ∉ s.toList) (by decide)
    (fun _ h => h) name h

theorem Shape.IsElement.not_mem {e : String} (h : IsElement e) : '=' ∉ e.toList := by
  intro hc
  have hword := h.2 '=' hc
  revert hword
  decide

namespace Catalog

variable {c : Catalog} {t : CppType} {name : String} {usage : Usage} {default : Attribute}
  {s : Shape} {r : Conversion} {d value : String}

/-- Adds a default value to the conversion of a parameter of the shape. Of what a wrapper converts
only a list of strings can have one, and every one is null to it. -/
def addDefault (t : CppType) (s : Shape) (default : Attribute) (r : Conversion) :
    Except Rejection Conversion :=
  if r.glue? = none then
    .ok { r with
      declaration := r.declaration ++ " = " ++ DefaultValue.declarationText default.shown }
  else if s = .stringSequence then .ok { r with declaration := r.declaration ++ " = null" }
  else .error (.defaultValue t default)

theorem rejectDefault_null (t : CppType) : rejectDefault t .null = .ok () := rfl

theorem rejectDefault_of_isTruthy (hd : default.isTruthy = true) :
    rejectDefault t default = .error (.defaultValue t default) := by
  rw [rejectDefault, if_pos hd]

theorem parameterRule_default (hd : default.isTruthy = true) :
    c.parameterRule t name default s =
      c.parameterRule t name .null s >>= fun r? => r?.mapM (addDefault t s default) := by
  cases s with
  | stringSequence =>
    rw [parameterRule, parameterRule, if_pos hd]
    split
    · rfl
    · rfl
  | singleOwnerSequence e =>
    rw [parameterRule, parameterRule, rejectDefault_of_isTruthy hd, rejectDefault_null]
    split
    · cases c.rejectDenylisted t e with
      | error e => rfl
      | ok u => rfl
    · rfl
  | pointerSequence e =>
    rw [parameterRule, parameterRule, rejectDefault_of_isTruthy hd, rejectDefault_null]
    split
    · rfl
    · rfl
  | valueSequence e =>
    rw [parameterRule, parameterRule, rejectDefault_of_isTruthy hd, rejectDefault_null]
    split
    · rfl
    · rfl
  | context => rfl
  | void => rfl
  | singleOwner e => rfl
  | plain => rfl

theorem shapeRule_default (hd : default.isTruthy = true) :
    c.shapeRule t name .parameter default =
      c.shapeRule t name .parameter .null >>= fun r? =>
        r?.mapM (addDefault t (Shape.classify c.conventions t) default) := by
  rw [shapeRule, shapeRule]
  cases rejectQualifierShape t with
  | error e => rfl
  | ok u => exact parameterRule_default hd

theorem generalDeclaration_default (hd : default.isTruthy = true) :
    c.generalDeclaration t usage default =
      c.generalDeclaration t usage .null >>= fun d =>
        .ok (d ++ " = " ++ DefaultValue.declarationText default.shown) := by
  have hnull : Json.null.isTruthy = false := rfl
  rw [generalDeclaration, generalDeclaration]
  simp only [hd, hnull, if_true, Bool.false_eq_true, if_false]
  -- No check before the last step looks at the default value.
  split
  · rfl
  cases c.requireBindable t with
  | error e => rfl
  | ok u =>
    split
    · rfl
    split
    · rfl
    split
    · rfl
    cases c.referenceOrHandle t with
    | error e => rfl
    | ok d => rfl

/-- To convert a parameter with a default value is to convert it without, and then to add the
value. -/
theorem convert_default (hd : default.isTruthy = true) :
    c.convert t name .parameter default =
      c.convert t name .parameter >>= addDefault t (Shape.classify c.conventions t) default := by
  rw [convert, convert, shapeRule_default hd]
  cases c.shapeRule t name .parameter .null with
  | error e => rfl
  | ok r? =>
    cases r? with
    | none =>
      show (c.generalDeclaration t .parameter default >>= fun d =>
          pure ({ declaration := d } : Conversion)) =
        (c.generalDeclaration t .parameter .null >>= fun d =>
          pure ({ declaration := d } : Conversion)) >>= _
      rw [generalDeclaration_default hd]
      cases c.generalDeclaration t .parameter .null with
      | error e => rfl
      | ok d => rfl
    | some r =>
      show (some r).mapM (addDefault t _ default) >>= _ = addDefault t _ default r
      rw [Option.mapM_some]
      cases addDefault t (Shape.classify c.conventions t) default r with
      | error e => rfl
      | ok r' => rfl

theorem rejectDefault_of_not_isTruthy (hd : default.isTruthy = false) :
    rejectDefault t default = .ok () := by
  rw [rejectDefault, hd]
  rfl

theorem convert_of_not_isTruthy (hd : default.isTruthy = false) :
    c.convert t name usage default = c.convert t name usage := by
  have hnull : Json.null.isTruthy = false := rfl
  have hrule (s : Shape) : c.parameterRule t name default s = c.parameterRule t name .null s := by
    cases s with
    | _ =>
      simp only [parameterRule, rejectDefault_of_not_isTruthy hd, rejectDefault_null, hd, hnull]
  have hgeneral : c.generalDeclaration t usage default = c.generalDeclaration t usage .null := by
    simp only [generalDeclaration, hd, hnull, Bool.false_eq_true, if_false]
  rw [convert, convert, hgeneral, shapeRule, shapeRule]
  cases usage with
  | result => rfl
  | parameter => simp only [hrule]

theorem classify_eq_stringSequence_iff (h : c.convert t name .parameter = .ok r)
    (hg : r.glue? ≠ none) :
    Shape.classify c.conventions t = .stringSequence ↔ t.name ∈ c.conventions.stringSequences := by
  have hw := Shape.ofName_isWritten c.conventions t.name
  constructor
  · intro hs
    rw [Shape.classify] at hs
    rw [hs] at hw
    exact hw
  · intro hn
    rw [Shape.classify, Shape.ofName]
    split
    · rename_i hvoid
      -- No parameter named void is converted by a wrapper.
      rcases convert_eq_ok.1 h with hs | ⟨-, d, -, rfl⟩
      · obtain ⟨u, -, hrule⟩ := Outcome.bind_eq_ok.1 hs
        rw [Shape.classify, Shape.ofName, if_pos hvoid] at hrule
        cases hrule
      · exact absurd rfl hg
    · rw [if_pos (List.contains_iff_mem.2 hn)]

/-- Converting a parameter with a default value compared with converting it without. -/
structure SeparatesDefault (c : Catalog) (t : CppType) (name value : String) : Prop where
  /-- What is refused without the value is refused for the same reason. -/
  rejected : ∀ e, c.convert t name .parameter = .error e →
    c.convert t name .parameter value = .error e
  direct : ∀ r, c.convert t name .parameter = .ok r → r.glue? = none →
    r.nativeOverride? = none ∧ c.convert t name .parameter value =
      .ok { r with declaration := r.declaration ++ " = " ++ DefaultValue.declarationText value }
  strings : ∀ r, c.convert t name .parameter = .ok r → r.glue? ≠ none →
    t.name ∈ c.conventions.stringSequences → c.convert t name .parameter value =
      .ok { r with declaration := r.declaration ++ " = null" }
  container : ∀ r, c.convert t name .parameter = .ok r → r.glue? ≠ none →
    t.name ∉ c.conventions.stringSequences →
      c.convert t name .parameter value = .error (.defaultValue t value)

theorem nativeOverride?_of_glue (h : c.convert t name .parameter default = .ok r)
    (hg : r.glue? = none) : r.nativeOverride? = none := by
  rcases convert_eq_ok.1 h with hs | ⟨-, d, -, rfl⟩
  · obtain ⟨⟨declaration, call, rfl⟩, -⟩ := shapeRule_parameter_eq_some hs
    cases hg
  · rfl

theorem separatesDefault (c : Catalog) (t : CppType) (name : String) (hv : value ≠ "") :
    c.SeparatesDefault t name value := by
  have hd : (Json.string value).isTruthy = true := by simpa using hv
  have hconvert : c.convert t name .parameter value = _ := convert_default hd
  constructor
  · intro e he
    rw [hconvert, he]
    rfl
  · intro r hr hg
    refine ⟨nativeOverride?_of_glue hr hg, ?_⟩
    rw [hconvert, hr]
    exact if_pos hg
  · intro r hr hg hn
    rw [hconvert, hr, (classify_eq_stringSequence_iff hr hg).2 hn]
    exact (if_neg hg).trans (if_pos rfl)
  · intro r hr hg hn
    have hs := mt (classify_eq_stringSequence_iff hr hg).1 hn
    rw [hconvert, hr]
    exact (if_neg hg).trans (if_neg hs)

theorem not_mem_arrayParameter (h : c.parameterRule t name .null s = .ok (some r))
    (hs : ∀ e, s.element? = some e → Shape.IsElement e) : '=' ∉ r.declaration.toList := by
  have helement (e : String) (he : s.element? = some e) : '=' ∉ (Primitive.scriptName e).toList :=
    Primitive.not_mem_scriptName (hs e he).not_mem
  cases s with
  | stringSequence =>
    simp only [parameterRule, Except.ok.injEq, ite_eq_iff, reduceCtorEq, and_false, or_false,
      Option.some.injEq] at h
    rw [← h.2]
    simp [arrayParameter, Json.isTruthy]
  | singleOwnerSequence e =>
    obtain ⟨-, h⟩ := Outcome.ite_none_eq_some.1 h
    obtain ⟨u, -, h⟩ := Outcome.bind_eq_ok.1 h
    cases h
    simp [arrayParameter, helement e rfl]
  | pointerSequence e =>
    obtain ⟨-, h⟩ := Outcome.ite_none_eq_some.1 h
    cases h
    simp [arrayParameter, helement e rfl]
  | valueSequence e =>
    obtain ⟨-, h⟩ := Outcome.ite_none_eq_some.1 h
    cases h
    simp [arrayParameter, helement e rfl]
  | context => cases h
  | void => cases h
  | singleOwner e => cases h
  | plain => cases h

theorem not_mem_typeText (hn : '=' ∉ t.name.toList) (h : c.typeText t .parameter = .ok d) :
    '=' ∉ d.toList := by
  have hname := Primitive.not_mem_scriptName hn
  rw [typeText] at h
  split at h
  · cases h
    simp [hname]
  · obtain ⟨d', hd', rfl⟩ := Outcome.map_eq_ok.1 h
    rw [referenceOrHandle] at hd'
    split at hd'
    · cases hd'
      simp [hname]
    split at hd'
    · split at hd'
      · cases hd'
        simp [hname]
      · cases hd'
    · cases hd'
      simp [hname]

theorem not_mem_declaration (hn : '=' ∉ t.name.toList) (h : c.convert t name .parameter = .ok r) :
    '=' ∉ r.declaration.toList := by
  rcases convert_eq_ok.1 h with hs | ⟨-, d, hg, rfl⟩
  · obtain ⟨u, -, hrule⟩ := Outcome.bind_eq_ok.1 hs
    exact not_mem_arrayParameter hrule fun e he => Shape.isElement_of_element? he
  · obtain ⟨-, -, -, -, text, htext, rfl⟩ := generalDeclaration_eq_ok.1 hg
    have hsuffix : DefaultValue.suffix .null = "" := rfl
    rw [hsuffix, String.append_empty]
    exact not_mem_typeText hn htext

end Catalog

/-- A parameter is declared to a script as it is without a default value, and with one after it if
it has one. An equals sign in the declaration shows that it has. -/
def Parameter.IsDeclaredAs (c : Catalog) (p : Parameter) (text : String) : Prop :=
  ∃ r, c.convert p.type p.name.shown .parameter = .ok r ∧
    text = r.declaration ++ (if p.default.isTruthy then
      " = " ++ if r.glue? = none then DefaultValue.declarationText p.default.shown else "null"
      else "") ∧
    ('=' ∉ p.type.name.toList → ('=' ∈ text.toList ↔ p.default.isTruthy = true))

/-- A function is declared to a script with its parameters in their order. -/
def FunctionDecl.IsDeclaredAs (c : Catalog) (f : FunctionDecl) (script : String) : Prop :=
  ∃ result texts, c.convert f.returnType "" .result = .ok result ∧
    List.Forall₂ (Parameter.IsDeclaredAs c) f.parameters texts ∧
    script = result.declaration ++ " " ++ f.name.shown ++ "(" ++ ", ".intercalate texts ++ ")" ++
      (if f.isConstMethod then " const" else "")

section Declared

variable {c : Catalog} {p : Parameter} {f : FunctionDecl} {w : Wrapper} {r : Conversion}

theorem Parameter.isDeclaredAs_declaration
    (h : c.convert p.type p.name.shown .parameter p.default = .ok r) :
    p.IsDeclaredAs c r.declaration := by
  cases hd : p.default.isTruthy with
  | false =>
    rw [Catalog.convert_of_not_isTruthy hd] at h
    refine ⟨r, h, ?_, fun hn => ?_⟩
    · rw [hd, if_neg Bool.false_ne_true, String.append_empty]
    · rw [hd]
      exact iff_of_false (Catalog.not_mem_declaration hn h) Bool.false_ne_true
  | true =>
    rw [Catalog.convert_default hd] at h
    obtain ⟨bare, hbare, h⟩ := Outcome.bind_eq_ok.1 h
    have hr : r.declaration = bare.declaration ++ (" = " ++
        if bare.glue? = none then DefaultValue.declarationText p.default.shown else "null") := by
      rw [Catalog.addDefault] at h
      split_ifs at h with hg hs
      · cases h
        rw [if_pos hg, String.append_assoc]
      · cases h
        rw [if_neg hg]
        rfl
    refine ⟨bare, hbare, ?_, fun _ => ?_⟩
    · rw [hd, if_pos rfl, hr]
    · rw [hd, hr]
      simp

theorem Wrapper.isDeclaredAs_scriptDeclaration (h : Wrapper.build c f = .ok w) :
    f.IsDeclaredAs c w.scriptDeclaration := by
  obtain ⟨parameters, result, hp, hr, rfl⟩ := build_eq_ok.1 h
  have htexts : List.Forall₂ (Parameter.IsDeclaredAs c) f.parameters
      (parameters.map (·.declaration)) := by
    rw [List.forall₂_map_right_iff]
    exact (Outcome.mapM_eq_ok.1 hp).imp fun p r hpr => Parameter.isDeclaredAs_declaration hpr
  refine ⟨result, _, hr, htexts, ?_⟩
  rw [scriptDeclaration]

end Declared

namespace CommandLine

/-- A default value decides nothing but the end of a declaration, or that a container is refused. So
in what a run binds the parameters that are declared with a default value are those that have
one. -/
theorem emit_separatesDefault (s : LoggedTree) (told : List Notice)
    (library : FileTree → TemplateLibrary) (o : GlueOptions) (d : Destination) (i : Inputs) :
    (∀ t name value, value ≠ "" → i.catalog.SeparatesDefault t name value) ∧
      ∀ s' r, (emit s told library o d i).outcome = .ok (s', r) →
        r.Lists (i.functionEntries ++ i.fieldEntries o) ∧
          ∀ (n : Nat) (f : FunctionDecl) (e : BoundEntry), i.functions[n]? = some f →
            i.functionEntries[n]? = some (.inl e) → f.IsDeclaredAs i.catalog e.script := by
  constructor
  · intro t name value hv
    exact i.catalog.separatesDefault t name hv
  · intro s' r h
    refine ⟨emit_lists h, fun n f e hf he => ?_⟩
    obtain ⟨⟨w, hw, rfl⟩, -⟩ := (i.functionEntries_eq_bound hf).1 he
    exact Wrapper.isDeclaredAs_scriptDeclaration hw

/-- A function of which all but one parameter have default values. -/
def finder : Inputs where
  catalog := .build {} [{ name := "Node", isRefCounted := true }] [] []
  functions := [{
    name := "Find"
    returnType := .plain "int"
    parameters := [
      { name := "root", type := { name := "Node", isPointer := true } },
      { name := "tags"
        type := { name := "Vector<String>", isConst := true, isReference := true }
        default := "Vector<String>()" },
      { name := "depth", type := .plain "int", default := "3" }] }]

theorem emit_separatesDefault_finder :
    finder.catalog.SeparatesDefault (.plain "int") "depth" "3" ∧ ∃ s' r f e,
      (emit { tree := {} } [] (fun _ => .packaged) {} freshDestination finder).outcome =
        .ok (s', r) ∧
      r.Lists (finder.functionEntries ++ finder.fieldEntries {}) ∧
      finder.functions[0]? = some f ∧ finder.functionEntries[0]? = some (.inl e) ∧
      e.script = "int Find(Node@+, Array<String>@+ = null, int = 3)" ∧
      f.IsDeclaredAs finder.catalog e.script := by
  obtain ⟨hseparates, hruns⟩ :=
    emit_separatesDefault { tree := {} } [] (fun _ => .packaged) {} freshDestination finder
  have hi : finder.IsTyped := by decide
  obtain ⟨s', r, h⟩ := emit_total (isReady_of_isTyped hi) []
  obtain ⟨hlists, hdeclared⟩ := hruns s' r h
  have hbuild : ((Wrapper.build finder.catalog finder.functions[0]).toOption.map
      (·.scriptDeclaration)) = some "int Find(Node@+, Array<String>@+ = null, int = 3)" := by
    decide
  obtain ⟨w, hw, hscript⟩ := Option.map_eq_some_iff.1 hbuild
  have hentry : finder.functionEntries[0]? = some (.inl w.entry) :=
    (finder.functionEntries_eq_bound rfl).2
      ⟨⟨w, Outcome.toOption_eq_some.1 hw, rfl⟩, fun hs => hs.earlier rfl⟩
  exact ⟨hseparates _ _ _ (by decide), s', r, _, w.entry, h, hlists, rfl, hentry, hscript,
    hdeclared 0 _ _ rfl hentry⟩

end CommandLine

end ScriptGlue

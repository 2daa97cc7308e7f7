import ScriptGlue.Proofs.Conversion
import ScriptGlue.Proofs.Generation
import ScriptGlue.Proofs.WrapperCode

namespace ScriptGlue

namespace CppType

variable {t : CppType}

theorem operators_eq_empty : t.operators = "" ↔ t.isDoublePointer = false ∧ t.isPointer = false ∧
    t.isRvalueReference = false ∧ t.isReference = false := by
  rw [operators]
  cases t.isDoublePointer <;> cases t.isPointer <;> cases t.isRvalueReference <;>
    cases t.isReference <;> decide

theorem spelling_eq_void :
    t.spelling = "void" ↔ t.name = "void" ∧ t.isConst = false ∧ t.operators = "" := by
  constructor
  · intro h
    rw [spelling, ← String.toList_inj] at h
    simp only [String.toList_append] at h
    have hconst : t.isConst = false := by
      cases hc : t.isConst with
      | false => rfl
      | true => simp [hc] at h
    -- `void` ends in no operator, so the texts are compared from their ends.
    have hops : t.operators = "" := by
      have hr := congrArg List.reverse h
      rw [operators_eq_empty]
      rw [operators] at hr
      cases hd : t.isDoublePointer <;> cases hp : t.isPointer <;>
        cases hv : t.isRvalueReference <;> cases hf : t.isReference <;>
        simp [hd, hp, hv, hf] at hr ⊢
    rw [hconst, hops] at h
    exact ⟨String.toList_inj.1 (by simpa using h), hconst, hops⟩
  · rintro ⟨hn, hc, ho⟩
    rw [spelling, hn, hc, ho]
    rfl

end CppType

/-- How a parameter gets from a script to the function: as it came, or in a local variable that a
call makes of a script array. -/
inductive Passing where
  | asIs (p : Parameter)
  | converted (p : Parameter) (call : String)

namespace Passing

def parameter : Passing → Parameter
  | asIs p | converted p _ => p

def isConverted : Passing → Bool
  | asIs _ => false
  | converted _ _ => true

def taken (c : Conventions) : Passing → Variable
  | asIs p => ⟨p.type.spelling, p.name.shown⟩
  | converted p _ => ⟨c.scriptArray, p.name.shown ++ c.convertedSuffix⟩

def statement? (c : Conventions) : Passing → Option WrapperStatement
  | asIs _ => none
  | converted p call =>
    some (.convert ⟨p.type.name, p.name.shown⟩ call (p.name.shown ++ c.convertedSuffix))

/-- A wrapper writes the passing for what the parameter is converted to. -/
structure Writes (c : Conventions) (q : Passing) (p : Parameter) (r : Conversion) : Prop where
  parameter : q.parameter = p
  isConverted : q.isConverted = r.needsWrapper
  taken : (q.taken c).text = Wrapper.nativeParameter p r
  statement : (q.statement? c).map (·.text) = given? r.glue?

variable {c : Catalog} {p : Parameter} {r : Conversion} {ps : List Parameter} {rs : List Conversion}

theorem exists_writes (h : c.convert p.type p.name.shown .parameter p.default = .ok r) :
    ∃ q : Passing, q.Writes c.conventions p r := by
  rcases Catalog.convert_eq_ok.1 h with hs | ⟨-, d, -, rfl⟩
  · obtain ⟨⟨declaration, call, rfl⟩, -⟩ := Catalog.shapeRule_parameter_eq_some hs
    have hnative : c.conventions.scriptArray ++ " " ++ c.convertedName p.name.shown ≠ "" := by simp
    have hglue : p.type.name ++ " " ++ p.name.shown ++ " = " ++ call ++ "(" ++
        c.convertedName p.name.shown ++ ");" ≠ "" := by simp
    refine ⟨.converted p call, rfl, ?_, ?_, ?_⟩
    · simp [Conversion.needsWrapper, Catalog.arrayParameter, isConverted]
    · rw [Wrapper.nativeParameter, Catalog.arrayParameter, given?_of_ne_empty hnative]
      rfl
    · rw [Catalog.arrayParameter, given?_of_ne_empty hglue]
      rfl
  · exact ⟨.asIs p, rfl, rfl, rfl, rfl⟩

theorem exists_forall₂_writes
    (h : List.Forall₂ (fun (p : Parameter) r =>
      c.convert p.type p.name.shown .parameter p.default = .ok r) ps rs) :
    ∃ qs : List Passing, qs.map (·.parameter) = ps ∧
      qs.map (·.isConverted) = rs.map (·.needsWrapper) ∧
      qs.map (fun q => (q.taken c.conventions).text) = ps.zipWith Wrapper.nativeParameter rs ∧
      qs.filterMap (fun q => (q.statement? c.conventions).map (·.text)) =
        rs.filterMap fun r => given? r.glue? := by
  induction h with
  | nil => exact ⟨[], rfl, rfl, rfl, rfl⟩
  | cons hr _ ih =>
    obtain ⟨q, hq⟩ := exists_writes hr
    obtain ⟨qs, hparameters, hconverted, htaken, hstatements⟩ := ih
    refine ⟨q :: qs, ?_, ?_, ?_, ?_⟩
    · rw [List.map_cons, hq.parameter, hparameters]
    · rw [List.map_cons, List.map_cons, hq.isConverted, hconverted]
    · rw [List.map_cons, List.zipWith_cons_cons, hq.taken, htaken]
    · rw [List.filterMap_cons, List.filterMap_cons, hq.statement, hstatements]

/-- Each parameter has its name declared once, as it is taken or by the statement that makes the
argument, and one that is converted has a second one. -/
theorem names_perm (c : Conventions) (passings : List Passing) :
    (passings.map (fun q => (q.taken c).name) ++
      (passings.filterMap (·.statement? c)).flatMap (·.declares)).Perm
    ((passings.filter (·.isConverted)).map (·.parameter.name.shown ++ c.convertedSuffix) ++
      passings.map (·.parameter.name.shown)) := by
  induction passings with
  | nil => exact .refl _
  | cons q passings ih =>
    cases q with
    | asIs p => exact (ih.cons _).trans List.perm_middle.symm
    | converted p call =>
      refine .cons _ ?_
      refine List.perm_middle.trans ?_
      exact (ih.cons _).trans List.perm_middle.symm

theorem areScoped_statements {c : Conventions} {passings : List Passing} {known : List String}
    (h : passings.map (fun q => (q.taken c).name) ⊆ known) :
    WrapperStatement.AreScoped known (passings.filterMap (·.statement? c)) := by
  refine WrapperStatement.areScoped_of_uses fun s hs => ?_
  obtain ⟨q, hq, hs⟩ := List.mem_filterMap.1 hs
  have htaken : (q.taken c).name ∈ known := h (List.mem_map_of_mem hq)
  cases q with
  | asIs p => cases hs
  | converted p call =>
    cases hs
    exact List.cons_subset.2 ⟨htaken, List.nil_subset known⟩

end Passing

namespace WrapperStatement

theorem line_forward (kept? : Option Variable) (object? : Option String) (function : String)
    (arguments : List String) : (forward kept? object? function arguments).line =
      "    " ++ kept?.elim "" (·.text ++ " = ") ++
        (object?.elim "" (· ++ "->") ++ function ++
          "(" ++ ", ".intercalate arguments ++ ");\n") := by
  unfold line text
  simp only [String.append_assoc]
  rfl

end WrapperStatement

namespace WrapperParts

theorem exists_ending (p : WrapperParts) (h : p.returnGlue? = none ∨
      ∃ v : ReturnValue, p.returnGlue? = some (WrapperStatement.giveBack v).text) :
    ∃ value? : Option ReturnValue,
      p.ending = String.join ((value?.map WrapperStatement.giveBack).toList.map (·.line)) ∧
        (value? = none ↔ p.returnsVoid ∧ p.returnGlue? = none) := by
  rcases h with hg | ⟨v, hg⟩
  · cases hv : p.returnsVoid with
    | true =>
      refine ⟨none, ?_, by simp [hg]⟩
      rw [ending, hg, hv]
      rfl
    | false =>
      refine ⟨some .itself, ?_, by simp⟩
      rw [ending, hg, hv]
      rfl
  · refine ⟨some v, ?_, by simp [hg]⟩
    have ht : (Json.ofOption (some (WrapperStatement.giveBack v).text)).isTruthy = true := by
      simp [Json.ofOption, WrapperStatement.text]
    rw [ending, hg, if_pos ht, Option.map_some, Option.toList_some, List.map_singleton,
      String.join_cons, String.join_nil, String.append_empty]
    rfl

end WrapperParts

namespace Wrapper

def objectVariable? (f : FunctionDecl) : Option Variable :=
  if f.kind == .method then some ⟨f.owner.shown ++ "*", "ptr"⟩ else none

def valueVariable? (w : Wrapper) : Option Variable :=
  if w.returnsVoid then none else some ⟨w.function.returnType.spelling, "result"⟩

def calleeName (f : FunctionDecl) : String :=
  if f.kind == .static then f.owner.shown ++ "::" ++ f.name.shown else f.name.shown

/-- The code for parameters that are passed in these ways and for a value that is given back in this
way, if there is one. -/
def code (c : Conventions) (w : Wrapper) (passings : List Passing) (value? : Option ReturnValue) :
    WrapperCode where
  returnType := w.returnType
  name := w.name
  parameters := (objectVariable? w.function).toList ++ passings.map (·.taken c)
  statements := passings.filterMap (·.statement? c) ++
    .forward w.valueVariable? ((objectVariable? w.function).map (·.name)) (calleeName w.function)
      (w.function.parameters.map (·.name.shown)) ::
    (value?.map WrapperStatement.giveBack).toList

/-- The wrapper is written as the code in which the parameters are passed in these ways, one for
each, and the value is given back in this way. -/
structure IsWrittenBy (c : Conventions) (w : Wrapper) (passings : List Passing)
    (value? : Option ReturnValue) : Prop where
  parameters : passings.map (·.parameter) = w.function.parameters
  converted : passings.map (·.isConverted) = w.parameters.map (·.needsWrapper)
  valueless : value? = none ↔ w.returnsVoid ∧ w.result.glue? = none
  source : w.render .packaged = .ok (Template.guarded w.guard?
    (Template.optionalLine "// " w.function.location ++ (w.code c passings value?).text))

variable {c : Catalog} {f : FunctionDecl} {isTemplate : Bool} {w : Wrapper} {t : CppType}
  {name : String} {r : Conversion}

theorem objectParameter_eq (f : FunctionDecl) :
    objectParameter f = (objectVariable? f).toList.map (·.text) := by
  rw [objectParameter, objectVariable?]
  split
  · rw [Option.toList_some, List.map_singleton, Variable.text]
    simp only [String.append_assoc]
    rfl
  · rfl

theorem callee_eq (f : FunctionDecl) :
    callee f = ((objectVariable? f).map (·.name)).elim "" (· ++ "->") ++ calleeName f := by
  rw [callee, objectVariable?, calleeName]
  cases f.kind with
  | free => simp
  | static => simp
  | method => rfl

theorem glue_of_convert (h : c.convert t name .result = .ok r) :
    r.nativeOverride? = none ∧ r.glue? = none ∨
      ∃ v : ReturnValue, r.glue? = some (WrapperStatement.giveBack v).text := by
  rcases Catalog.convert_eq_ok.1 h with hs | ⟨-, d, -, rfl⟩
  · rcases Catalog.shapeRule_result_eq_some hs with ⟨-, -, rfl⟩ | ⟨hg, -⟩
    · exact .inl ⟨rfl, rfl⟩
    · right
      cases hg with
      | handle e => exact ⟨.detached, rfl⟩
      | array element call =>
        refine ⟨.array call element, congrArg some ?_⟩
        simp [WrapperStatement.text, ReturnValue.text, String.append_assoc]
  · exact .inl ⟨rfl, rfl⟩

theorem exists_parts (h : w.parameters.length = w.function.parameters.length) :
    ∃ p, w.parts = .ok p ∧ p.returnGlue? = w.result.glue? ∧ p.returnsVoid = w.returnsVoid ∧
      p.guard? = w.guard? ∧ p.location = w.function.location :=
  ⟨_, if_neg (by simpa using h), rfl, rfl, rfl, rfl⟩

theorem resultBinding_eq (w : Wrapper) :
    (if w.returnsVoid then "" else w.function.returnType.spelling ++ " result = ") =
      w.valueVariable?.elim "" (·.text ++ " = ") := by
  rw [valueVariable?]
  split
  · rfl
  · rw [Option.elim_some, Variable.text]
    simp only [String.append_assoc]
    rfl

theorem definition_of_parts {p : WrapperParts} {passings : List Passing}
    {value? : Option ReturnValue} {c : Conventions} (hp : w.parts = .ok p)
    (htaken : passings.map (fun q => (q.taken c).text) =
      w.function.parameters.zipWith nativeParameter w.parameters)
    (hstatements : passings.filterMap (fun q => (q.statement? c).map (·.text)) =
      w.parameters.filterMap fun r => given? r.glue?)
    (hending :
      p.ending = String.join ((value?.map WrapperStatement.giveBack).toList.map (·.line))) :
    p.definition = (w.code c passings value?).text := by
  have hglue : (passings.filterMap (·.statement? c)).map (·.line) =
      (w.parameters.filterMap fun r => given? r.glue?).map fun line => "    " ++ line ++ "\n" := by
    rw [← hstatements, List.map_filterMap, List.map_filterMap]
    simp only [Option.map_map]
    rfl
  rw [parts] at hp
  split at hp
  · cases hp
  · unfold WrapperParts.definition WrapperCode.text code
    rw [hending]
    cases hp
    simp only [List.map_append, List.map_cons, String.join_append, String.join_cons, hglue,
      objectParameter_eq, callee_eq, ← htaken, List.map_map, WrapperStatement.line_forward,
      resultBinding_eq, Function.comp_def, String.append_assoc]

theorem exists_isWrittenBy (h : build c f isTemplate = .ok w) :
    ∃ passings value?, w.IsWrittenBy c.conventions passings value? := by
  have hlen := length_of_build h
  obtain ⟨parameters, result, hp, hr, rfl⟩ := build_eq_ok.1 h
  obtain ⟨passings, hparameters, hconverted, htaken, hstatements⟩ :=
    Passing.exists_forall₂_writes (Outcome.mapM_eq_ok.1 hp)
  obtain ⟨p, hparts, hglue, hvoid, hguard, hlocation⟩ := exists_parts hlen
  have hgives := (glue_of_convert hr).imp_left And.right
  rw [← hglue] at hgives
  obtain ⟨value?, hending, hvalue⟩ := p.exists_ending hgives
  refine ⟨passings, value?, hparameters, hconverted, ?_, render_packaged.2 ⟨p, hparts, ?_⟩⟩
  · rw [hvalue, hglue, hvoid]
  · rw [WrapperParts.text, definition_of_parts hparts htaken hstatements hending]
    rw [hguard, hlocation]

theorem IsWrittenBy.isScoped {c : Conventions} {passings : List Passing}
    {value? : Option ReturnValue} (h : w.IsWrittenBy c passings value?)
    (hv : w.returnsVoid → value? = none) : (w.code c passings value?).IsScoped := by
  have hknown : (w.code c passings value?).parameters.map (·.name) =
      ((objectVariable? w.function).map (·.name)).toList ++
        passings.map (fun q => (q.taken c).name) := by
    rw [code, List.map_append, List.map_map, Option.toList_map]
    rfl
  rw [WrapperCode.IsScoped, hknown]
  refine WrapperStatement.areScoped_append.2 ⟨?_, ?_, ?_⟩
  · exact Passing.areScoped_statements (List.subset_append_right _ _)
  · -- The call has the object, which is a parameter, and the names of all parameters, each of which
    -- is taken under that name or made by one of the statements before.
    refine List.append_subset.2 ⟨?_, fun name hname => ?_⟩
    · rw [List.append_assoc]
      exact List.subset_append_left _ _
    · rw [← h.parameters, List.map_map] at hname
      rw [List.append_assoc]
      have hperm := Passing.names_perm c passings
      exact List.mem_append_right _ (hperm.mem_iff.2 (List.mem_append_right _ hname))
  · cases value? with
    | none => trivial
    | some v =>
      have hr : w.returnsVoid = false := Bool.eq_false_iff.2 fun hr => by cases hv hr
      rw [valueVariable?, hr]
      refine ⟨List.cons_subset.2 ⟨?_, List.nil_subset _⟩, trivial⟩
      exact List.mem_append_right _ (List.mem_singleton.2 rfl)

theorem convert_of_build (h : build c f isTemplate = .ok w) :
    c.convert w.function.returnType "" .result = .ok w.result := by
  obtain ⟨parameters, result, -, hr, rfl⟩ := build_eq_ok.1 h
  exact hr

theorem returnType_of_isGluedResult (hc : c.conventions = .standard)
    (h : c.IsGluedResult w.result) : w.returnType ≠ "void" := by
  rw [returnType]
  generalize w.result = r at h
  cases h with
  | handle e =>
    show (given? (some (e ++ "*"))).getD w.function.returnType.spelling ≠ "void"
    rw [given?_of_ne_empty (by simp), Option.getD_some]
    intro he
    have hlast := congrArg (fun s : String => s.toList.getLast?) he
    simp at hlast
  | array element call =>
    show (given? (some c.conventions.scriptArray)).getD w.function.returnType.spelling ≠ "void"
    rw [hc, given?_of_ne_empty (by decide), Option.getD_some]
    decide

theorem returnType_eq_void (hc : c.conventions = .standard)
    (h : c.convert w.function.returnType "" .result = .ok w.result)
    (hv : w.function.returnType.name = "void" →
      w.function.returnType.isConst = false ∧ w.function.returnType.isReference = false) :
    w.returnType = "void" ↔ w.function.returnType.name = "void" := by
  constructor
  · intro hw
    rcases Catalog.convert_eq_ok.1 h with hs | ⟨-, d, -, hr⟩
    · rcases Catalog.shapeRule_result_eq_some hs with ⟨hn, -, -⟩ | ⟨hg, -⟩
      · exact hn
      · exact absurd hw (returnType_of_isGluedResult hc hg)
    · rw [returnType, hr] at hw
      exact (CppType.spelling_eq_void.1 hw).1
  · intro hn
    obtain ⟨hp, hr⟩ := Catalog.convert_void hn h
    obtain ⟨hrvalue, hdouble, -⟩ :=
      Catalog.rejectQualifierShape_eq_ok.1 (Catalog.rejectQualifierShape_of_convert h)
    obtain ⟨hconst, hreference⟩ := hv hn
    rw [returnType, hr]
    refine CppType.spelling_eq_void.2 ⟨hn, hconst, ?_⟩
    exact CppType.operators_eq_empty.2 ⟨hdouble, hp, hrvalue, hreference⟩

/-- A wrapper that is built forwards to its function. Each parameter is taken as it stands or made
from a script array, all of them before the call, which has them in their order; and the wrapper
gives something back unless it is void, as it is exactly for a void function. -/
theorem build_forwards (hc : c.conventions = .standard)
    (hv : f.returnType.name = "void" →
      f.returnType.isConst = false ∧ f.returnType.isReference = false)
    (hb : build c f isTemplate = .ok w) :
    w.function = f ∧ ∃ passings value?, w.IsWrittenBy .standard passings value? ∧
      (w.code .standard passings value?).IsScoped ∧
      (value? = none ↔ w.returnType = "void") ∧
      (w.returnType = "void" ↔ f.returnType.name = "void") := by
  have hf := function_of_build hb
  have hresult := convert_of_build hb
  have hreturn : w.returnType = "void" ↔ f.returnType.name = "void" := by
    rw [← hf] at hv ⊢
    exact returnType_eq_void hc hresult hv
  obtain ⟨passings, value?, hwritten⟩ := exists_isWrittenBy hb
  rw [hc] at hwritten
  have hvalue : value? = none ↔ w.returnType = "void" := by
    rw [hwritten.valueless, returnsVoid, beq_iff_eq, and_iff_left_iff_imp]
    intro hw
    have hn := hreturn.1 hw
    rw [← hf] at hn
    rw [(Catalog.convert_void hn hresult).2]
  refine ⟨hf, passings, value?, hwritten, hwritten.isScoped fun hw => ?_, hvalue, hreturn⟩
  exact hvalue.2 (beq_iff_eq.1 hw)

/-- A method with one parameter that comes as a script array and one that comes as it stands, and
with a list to give back. -/
theorem build_forwards_find :
    let c : Catalog := .build {} [{ name := "Node", isRefCounted := true }] [] []
    let f : FunctionDecl := {
      name := "Find"
      returnType := .plain "PODVector<Node*>"
      parameters := [
        { name := "tags"
          type := { name := "Vector<String>", isConst := true, isReference := true } },
        { name := "depth", type := .plain "int" }]
      kind := .method
      owner := "Node" }
    ∃ w, build c f = .ok w ∧ w.function = f ∧ ∃ passings value?,
      w.IsWrittenBy .standard passings value? ∧ passings.map (·.isConverted) = [true, false] ∧
        (w.code .standard passings value?).IsScoped ∧ value? ≠ none := by
  intro c f
  obtain ⟨w, hb⟩ : ∃ w, build c f = .ok w := Outcome.isOk_iff.1 (by decide)
  have hv : f.returnType.name = "void" →
      f.returnType.isConst = false ∧ f.returnType.isReference = false := fun _ => ⟨rfl, rfl⟩
  obtain ⟨hf, passings, value?, hwritten, hscoped, hvalue, hreturn⟩ := build_forwards rfl hv hb
  refine ⟨w, hb, hf, passings, value?, hwritten, ?_, hscoped, ?_⟩
  · rw [hwritten.converted]
    have hneeds : (build c f).toOption.map (fun w => w.parameters.map (·.needsWrapper)) =
        some [true, false] := by decide
    rw [hb] at hneeds
    exact Option.some.inj hneeds
  · rw [Ne, hvalue, hreturn]
    decide

end Wrapper

end ScriptGlue

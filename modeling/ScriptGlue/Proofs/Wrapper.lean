import ScriptGlue.Glue
import ScriptGlue.Proofs.Outcome

namespace ScriptGlue.Wrapper

variable {c : Catalog} {f : FunctionDecl} {isTemplate : Bool} {w : Wrapper}
  {l : TemplateLibrary} {o : GlueOptions} {b : Binding}

theorem build_eq_ok : build c f isTemplate = .ok w ↔
    ∃ parameters result,
      f.parameters.mapM (fun p => c.convert p.type p.name.shown .parameter p.default) =
        .ok parameters ∧
      c.convert f.returnType "" .result = .ok result ∧
      { function := f
        parameters
        result
        name := f.wrapperName isTemplate
        isTemplate := isTemplate && f.kind == .method
        guard? := c.conventions.guardFor? f.header } = w := by
  rw [build]
  simp only [Outcome.bind_eq_ok, Outcome.pure_eq_ok]
  exact ⟨fun ⟨ps, hps, r, hr, h⟩ => ⟨ps, r, hps, hr, h⟩,
    fun ⟨ps, r, hps, hr, h⟩ => ⟨ps, hps, r, hr, h⟩⟩

theorem function_of_build (h : build c f isTemplate = .ok w) : w.function = f := by
  obtain ⟨_, _, _, _, rfl⟩ := build_eq_ok.1 h
  rfl

theorem name_of_build (h : build c f isTemplate = .ok w) : w.name = f.wrapperName isTemplate := by
  obtain ⟨_, _, _, _, rfl⟩ := build_eq_ok.1 h
  rfl

theorem guard_of_build (h : build c f isTemplate = .ok w) :
    w.guard? = c.conventions.guardFor? f.header := by
  obtain ⟨_, _, _, _, rfl⟩ := build_eq_ok.1 h
  rfl

theorem length_of_build (h : build c f isTemplate = .ok w) :
    w.parameters.length = w.function.parameters.length := by
  obtain ⟨parameters, _, hp, _, rfl⟩ := build_eq_ok.1 h
  exact (Outcome.mapM_eq_ok.1 hp).length_eq.symm

def binding (w : Wrapper) (o : GlueOptions) (pointer : String) (source? : Option String) :
    Binding where
  entry := {
    declaration := w.function.signature
    script := w.scriptDeclaration
    wrapper? := if w.isNeeded then some w.name else none
    registration? := some pointer }
  wrapperSource? := source?
  registration := {
    statements := statements w.function w.scriptDeclaration pointer w.isNeeded
    guard? := w.guard?
    comment? := if o.signatureComments then some w.function.signature else none }

theorem bind_of_isNeeded (hn : w.isNeeded = true) : w.bind l o = .ok b ↔
    ∃ source, w.render l = .ok source ∧
      w.binding o ("asFUNCTION(" ++ w.name ++ ")") (some source) = b := by
  unfold bind binding
  simp only [hn, ↓reduceIte, Outcome.bind_eq_ok, Outcome.pure_eq_ok, pure_bind]

theorem bind_of_direct (hn : w.isNeeded = false) : w.bind l o = .ok b ↔
    ∃ e, w.function.registrationExpression = .ok e ∧ w.binding o e none = b := by
  unfold bind binding
  simp only [hn, Bool.false_eq_true, ↓reduceIte, Outcome.bind_eq_ok, Outcome.pure_eq_ok,
    Outcome.mapError_eq_ok, pure_bind]

/-- What the function is registered under, if its own expression can be put together. -/
def pointer? (w : Wrapper) : Option String :=
  if w.isNeeded then some ("asFUNCTION(" ++ w.name ++ ")")
  else w.function.registrationExpression.toOption

/-- How the report lists the function once it is bound. -/
def entry (w : Wrapper) : BoundEntry where
  declaration := w.function.signature
  script := w.scriptDeclaration
  wrapper? := if w.isNeeded then some w.name else none
  registration? := w.pointer?

theorem bind_eq_ok (h : w.bind l o = .ok b) : ∃ pointer source?,
    w.pointer? = some pointer ∧ w.binding o pointer source? = b ∧
      if w.isNeeded then ∃ source, w.render l = .ok source ∧ source? = some source
      else source? = none := by
  rw [pointer?]
  cases hn : w.isNeeded with
  | true =>
    obtain ⟨source, hs, hb⟩ := (bind_of_isNeeded hn).1 h
    exact ⟨_, _, rfl, hb, source, hs, rfl⟩
  | false =>
    obtain ⟨e, he, hb⟩ := (bind_of_direct hn).1 h
    exact ⟨e, none, Outcome.toOption_eq_some.2 he, hb, rfl⟩

theorem entry_of_bind (h : w.bind l o = .ok b) : b.entry = w.entry := by
  obtain ⟨pointer, source?, hp, rfl, -⟩ := bind_eq_ok h
  rw [entry, hp]
  rfl

end ScriptGlue.Wrapper

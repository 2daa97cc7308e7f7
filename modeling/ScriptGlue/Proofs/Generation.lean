import ScriptGlue.Proofs.Listing
import ScriptGlue.Proofs.Rendering

namespace ScriptGlue

/-- The statement registers what the entry lists. -/
def RegistrationStatement.Registers (e : BoundEntry) : RegistrationStatement → Prop
  | .setNamespace _ => False
  | .globalFunction declaration pointer | .objectMethod _ declaration pointer _ =>
    declaration = e.script ∧ e.registration? = some pointer
  | .objectProperty _ declaration _ => declaration = e.script ∧ e.registration? = none

/-- One of the statements registers what the entry lists, and the others only set namespaces. -/
def Registration.Registers (r : Registration) (e : BoundEntry) : Prop :=
  ∃ before s after, r.statements = before ++ s :: after ∧ s.Registers e ∧
    ∀ x ∈ before ++ after, ∃ name, x = .setNamespace name

namespace BoundEntry

/-- The text is the registration of what the entry lists. -/
def IsRegisteredBy (e : BoundEntry) (text : String) : Prop :=
  ∃ r : Registration, r.Registers e ∧ r.text = text

/-- The text is the wrapper that the entry names. -/
def IsDefinedBy (e : BoundEntry) (text : String) : Prop :=
  ∃ (w : Wrapper) (p : WrapperParts), w.entry = e ∧ w.parts = .ok p ∧ e.wrapper? = some p.name ∧
    p.text = text

end BoundEntry

/-- The texts of a binding are those that its entry lists. -/
structure Binding.IsFaithful (b : Binding) : Prop where
  registered : b.registration.Registers b.entry
  wrapped : b.wrapperSource?.isSome = b.entry.wrapper?.isSome
  defined : ∀ source, b.wrapperSource? = some source → b.entry.IsDefinedBy source

namespace Wrapper

variable {o : GlueOptions} {w : Wrapper} {b : Binding} {source : String}

theorem statements_registers (w : Wrapper) (o : GlueOptions) (pointer : String)
    (source? : Option String) :
    (w.binding o pointer source?).registration.Registers (w.binding o pointer source?).entry := by
  rw [binding, Registration.Registers, statements]
  cases w.function.kind with
  | method => exact ⟨[], _, [], rfl, ⟨rfl, rfl⟩, by simp⟩
  | static => exact ⟨[_], _, [_], rfl, ⟨rfl, rfl⟩, by simp⟩
  | free => exact ⟨[], _, [], rfl, ⟨rfl, rfl⟩, by simp⟩

theorem name_of_parts {p : WrapperParts} (h : w.parts = .ok p) : p.name = w.name := by
  rw [parts] at h
  split at h
  · cases h
  · cases h
    rfl

theorem guard_of_parts {p : WrapperParts} (h : w.parts = .ok p) : p.guard? = w.guard? := by
  rw [parts] at h
  split at h
  · cases h
  · cases h
    rfl

theorem render_packaged : w.render .packaged = .ok source ↔
    ∃ p, w.parts = .ok p ∧ p.text = source := by
  rw [render]
  simp only [Outcome.bind_eq_ok, Outcome.mapError_eq_ok, TemplateLibrary.render_wrapper,
    Except.ok.injEq]

theorem bind_isFaithful (h : w.bind .packaged o = .ok b) : b.IsFaithful := by
  have he := entry_of_bind h
  obtain ⟨pointer, source?, -, rfl, hs⟩ := bind_eq_ok h
  cases hn : w.isNeeded with
  | true =>
    rw [hn, if_pos rfl] at hs
    obtain ⟨source, hr, rfl⟩ := hs
    obtain ⟨p, hp, rfl⟩ := render_packaged.1 hr
    refine ⟨statements_registers w o pointer _, by simp [binding, hn], ?_⟩
    rintro source ⟨⟩
    refine ⟨w, p, he.symm, hp, ?_, rfl⟩
    rw [name_of_parts hp, binding, hn, if_pos rfl]
  | false =>
    rw [hn, if_neg Bool.false_ne_true] at hs
    subst hs
    exact ⟨statements_registers w o pointer _, by simp [binding, hn], by simp [binding]⟩

end Wrapper

theorem FieldDecl.bind_isFaithful {c : Catalog} {o : GlueOptions} {f : FieldDecl} {b : Binding}
    (h : f.bind c o = .ok b) : b.IsFaithful := by
  obtain ⟨type, -, rfl⟩ := bind_eq_ok.1 h
  exact ⟨⟨[], _, [], rfl, ⟨rfl, rfl⟩, by simp⟩, rfl, by simp⟩

namespace Glue

variable {l : TemplateLibrary} {templates : List Notice → TemplateLibrary} {o : GlueOptions}
  {i : Inputs} {g : Glue} {bs : List Binding}

theorem forall₂_isRegisteredBy (h : ∀ b ∈ bs, b.IsFaithful) :
    List.Forall₂ BoundEntry.IsRegisteredBy (bs.map (·.entry)) (bs.map (·.registration.text)) := by
  rw [List.forall₂_map_left_iff, List.forall₂_map_right_iff]
  exact List.forall₂_same.2 fun b hb => ⟨b.registration, (h b hb).registered, rfl⟩

theorem forall₂_isDefinedBy (h : ∀ b ∈ bs, b.IsFaithful) :
    List.Forall₂ BoundEntry.IsDefinedBy ((bs.map (·.entry)).filter (·.wrapper?.isSome))
      (bs.filterMap (·.wrapperSource?)) := by
  induction bs with
  | nil => exact .nil
  | cons b bs ih =>
    have hb := h b List.mem_cons_self
    have hrest := ih fun c hc => h c (List.mem_cons_of_mem b hc)
    rw [List.map_cons]
    cases hs : b.wrapperSource? with
    | none =>
      have hn : b.entry.wrapper?.isSome = false := by rw [← hb.wrapped, hs]; rfl
      rw [List.filter_cons, hn, List.filterMap_cons_none hs]
      exact hrest
    | some source =>
      have hn : b.entry.wrapper?.isSome = true := by rw [← hb.wrapped, hs]; rfl
      rw [List.filter_cons, hn, List.filterMap_cons_some hs]
      exact .cons (hb.defined source hs) hrest

theorem generate_eq_ok (h : (generate templates o i).outcome = .ok g) : ∃ functions,
    List.Forall₂ (fun w b => w.bind (templates i.functionNotices) o = .ok b) i.selected functions ∧
      (templates (i.functionNotices ++ i.fieldNotices o)).render o.bindingsTemplate
        (scope o (i.headers o.strippedHead) (functions ++ i.boundFields o)) = .ok g.text ∧
      g.bindings = functions ++ i.boundFields o ∧
      g.report = { bound := g.bindings.map (·.entry), skipped := i.skips o } := by
  rw [generate] at h
  simp only [Run.bind_eq_ok, Run.ofExcept_eq_ok, Run.outcome_pure, Except.ok.injEq] at h
  obtain ⟨-, -, -, -, functions, hf, -, -, -, -, -, -, text, ht, rfl⟩ := h
  exact ⟨functions, Outcome.mapM_eq_ok.1 hf, ht, rfl, rfl⟩

theorem entries_of_bind {ws : List Wrapper}
    (h : List.Forall₂ (fun w b => w.bind l o = .ok b) ws bs) :
    bs.map (·.entry) = ws.map (·.entry) := by
  induction h with
  | nil => rfl
  | cons hb _ ih => rw [List.map_cons, ih, List.map_cons, Wrapper.entry_of_bind hb]

theorem isFaithful_of_bind {ws : List Wrapper}
    (h : List.Forall₂ (fun w b => w.bind .packaged o = .ok b) ws bs) : ∀ b ∈ bs, b.IsFaithful := by
  induction h with
  | nil => simp
  | cons hb _ ih => exact List.forall_mem_cons.2 ⟨Wrapper.bind_isFaithful hb, ih⟩

theorem isFaithful_of_mem {functions : List Binding}
    (h : List.Forall₂ (fun w b => w.bind .packaged o = .ok b) i.selected functions) {b : Binding}
    (hb : b ∈ functions ++ i.boundFields o) : b.IsFaithful := by
  rcases List.mem_append.1 hb with hb | hb
  · exact isFaithful_of_bind h b hb
  · obtain ⟨f, -, hf⟩ := Inputs.exists_bind_of_mem_boundFields hb
    exact FieldDecl.bind_isFaithful hf

theorem generate_lists (h : (generate templates o i).outcome = .ok g) :
    g.report.Lists (i.functionEntries ++ i.fieldEntries o) := by
  obtain ⟨functions, hf, -, hb, hr⟩ := generate_eq_ok h
  refine Inputs.lists_of_bound (by rw [hr]) ?_
  rw [hr, hb, List.map_append, entries_of_bind hf]

theorem generate_bindings (ht : ∀ told, templates told = .packaged)
    (ho : o.bindingsTemplate = Template.bindingsName)
    (h : (generate templates o i).outcome = .ok g) : ∃ functions,
      List.Forall₂ (fun w b => w.bind .packaged o = .ok b) i.selected functions ∧
      g.text = sourceText o (i.headers o.strippedHead)
        ((functions ++ i.boundFields o).filterMap (·.wrapperSource?))
        ((functions ++ i.boundFields o).map (·.registration.text)) ∧
      g.report.bound = (functions ++ i.boundFields o).map (·.entry) := by
  obtain ⟨functions, hf, hs, hb, hr⟩ := generate_eq_ok h
  rw [ht] at hf
  refine ⟨functions, hf, ?_, by rw [hr, hb]⟩
  rw [ht, ho, TemplateLibrary.render_bindings, Except.ok.injEq] at hs
  exact hs.symm

/-- With the packaged templates the generated source has a wrapper and a registration for what the
report lists, and no others. -/
theorem generate_text (ht : ∀ told, templates told = .packaged)
    (ho : o.bindingsTemplate = Template.bindingsName)
    (h : (generate templates o i).outcome = .ok g) : ∃ wrappers registrations,
      g.text = sourceText o (i.headers o.strippedHead) wrappers registrations ∧
      List.Forall₂ BoundEntry.IsDefinedBy (g.report.bound.filter (·.wrapper?.isSome)) wrappers ∧
      List.Forall₂ BoundEntry.IsRegisteredBy g.report.bound registrations := by
  obtain ⟨functions, hf, htext, hbound⟩ := generate_bindings ht ho h
  have hfaithful : ∀ b ∈ functions ++ i.boundFields o, b.IsFaithful :=
    fun b hb => isFaithful_of_mem hf hb
  rw [hbound]
  exact ⟨_, _, htext, forall₂_isDefinedBy hfaithful, forall₂_isRegisteredBy hfaithful⟩

end Glue

end ScriptGlue

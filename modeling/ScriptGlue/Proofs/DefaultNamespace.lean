import ScriptGlue.Proofs.Emission

namespace ScriptGlue

namespace RegistrationStatement

def namespaceCall : String := "engine->SetDefaultNamespace(\""

def globalCall : String := "engine->RegisterGlobalFunction(\""

def methodCall : String := "engine->RegisterObjectMethod(\""

def propertyCall : String := "engine->RegisterObjectProperty(\""

/-- The default namespace after a statement: a call that sets it gives it up to the next quote. -/
def namespaceAfter (current statement : String) : String :=
  match namespaceCall.toList.isPrefixOf? statement.toList with
  | some rest => String.ofList (rest.takeWhile (· != '"'))
  | none => current

def registersGlobal (statement : String) : Bool :=
  globalCall.toList.isPrefixOf statement.toList

variable {current name owner declaration pointer field : String} {convention : CallConvention}

theorem text_setNamespace : (setNamespace name).text.toList =
    namespaceCall.toList ++ (name.toList ++ '"' :: ");".toList) := by
  change (namespaceCall ++ name ++ "\");").toList = _
  rw [String.toList_append, String.toList_append, List.append_assoc]
  rfl

theorem text_globalFunction : ∃ rest,
    (globalFunction declaration pointer).text.toList = globalCall.toList ++ rest := by
  change ∃ rest, (globalCall ++ declaration ++ _ ++ _ ++ _ ++ _ ++ _).toList = _ ++ rest
  simp only [String.toList_append, List.append_assoc]
  exact ⟨_, rfl⟩

theorem text_objectMethod : ∃ rest,
    (objectMethod owner declaration pointer convention).text.toList =
      methodCall.toList ++ rest := by
  change ∃ rest, (methodCall ++ owner ++ _ ++ _ ++ _ ++ _ ++ _ ++ _ ++ _).toList = _ ++ rest
  simp only [String.toList_append, List.append_assoc]
  exact ⟨_, rfl⟩

theorem text_objectProperty : ∃ rest,
    (objectProperty owner declaration field).text.toList = propertyCall.toList ++ rest := by
  change ∃ rest, (propertyCall ++ owner ++ _ ++ _ ++ _ ++ _ ++ _ ++ _ ++ _).toList = _ ++ rest
  simp only [String.toList_append, List.append_assoc]
  exact ⟨_, rfl⟩

theorem namespaceAfter_setNamespace (h : '"' ∉ name.toList) :
    namespaceAfter current (setNamespace name).text = name := by
  have hread : namespaceCall.toList.isPrefixOf? (setNamespace name).text.toList =
      some (name.toList ++ '"' :: ");".toList) := by
    rw [text_setNamespace]
    rfl
  have hname : ∀ c ∈ name.toList, (c != '"') = true := by
    intro c hc
    rw [bne_iff_ne]
    rintro rfl
    exact h hc
  rw [namespaceAfter, hread]
  dsimp only
  rw [List.takeWhile_append_of_pos hname, List.takeWhile_cons_of_neg (by decide),
    List.append_nil, String.ofList_toList]

theorem namespaceAfter_globalFunction :
    namespaceAfter current (globalFunction declaration pointer).text = current := by
  obtain ⟨rest, hrest⟩ := text_globalFunction
  rw [namespaceAfter, hrest]
  rfl

theorem namespaceAfter_objectMethod :
    namespaceAfter current (objectMethod owner declaration pointer convention).text = current := by
  obtain ⟨rest, hrest⟩ := text_objectMethod
  rw [namespaceAfter, hrest]
  rfl

theorem namespaceAfter_objectProperty :
    namespaceAfter current (objectProperty owner declaration field).text = current := by
  obtain ⟨rest, hrest⟩ := text_objectProperty
  rw [namespaceAfter, hrest]
  rfl

theorem registersGlobal_globalFunction :
    registersGlobal (globalFunction declaration pointer).text = true := by
  obtain ⟨rest, hrest⟩ := text_globalFunction
  rw [registersGlobal, hrest]
  rfl

theorem not_registersGlobal_setNamespace : registersGlobal (setNamespace name).text = false := by
  rw [registersGlobal, text_setNamespace]
  rfl

theorem not_registersGlobal_objectMethod :
    registersGlobal (objectMethod owner declaration pointer convention).text = false := by
  obtain ⟨rest, hrest⟩ := text_objectMethod
  rw [registersGlobal, hrest]
  rfl

theorem not_registersGlobal_objectProperty :
    registersGlobal (objectProperty owner declaration field).text = false := by
  obtain ⟨rest, hrest⟩ := text_objectProperty
  rw [registersGlobal, hrest]
  rfl

end RegistrationStatement

namespace Registration

open RegistrationStatement

variable {defined : String → Bool} {r : Registration} {rs : List Registration}
  {before after : List String}

def texts (r : Registration) : List String := r.statements.map (·.text)

def executed (defined : String → Bool) (rs : List Registration) : List String :=
  (rs.filter fun r => Template.isCompiled defined r.guard?).flatMap (·.texts)

/-- The default namespace that the compiled statements leave, which begin without one. -/
def namespaceLeft (statements : List String) : String := statements.foldl namespaceAfter ""

/-- A statement of the block at the position is executed in the namespace. -/
def Executes (defined : String → Bool) (rs : List Registration) (n : Nat)
    (current statement : String) : Prop :=
  ∃ r before after, rs[n]? = some r ∧ Template.isCompiled defined r.guard? = true ∧
    r.texts = before ++ statement :: after ∧
    namespaceLeft (executed defined (rs.take n) ++ before) = current

/-- The statements leave the namespace again that they enter. -/
def Restores (r : Registration) : Prop := namespaceLeft r.texts = ""

theorem namespaceLeft_append (h : namespaceLeft before = "") :
    namespaceLeft (before ++ after) = namespaceLeft after := by
  rw [namespaceLeft, List.foldl_append]
  exact congrArg (after.foldl namespaceAfter ·) h

theorem namespaceLeft_executed (h : ∀ r ∈ rs, r.Restores) :
    namespaceLeft (executed defined rs) = "" := by
  induction rs with
  | nil => rfl
  | cons r rs ih =>
    obtain ⟨hr, hrs⟩ := List.forall_mem_cons.1 h
    have hrest := ih hrs
    rw [executed] at hrest ⊢
    rw [List.filter_cons]
    split
    · rw [List.flatMap_cons, namespaceLeft_append hr, hrest]
    · exact hrest

theorem Executes.inBlock {n : Nat} {current statement : String}
    (h : Executes defined rs n current statement) (hrs : ∀ r ∈ rs, r.Restores) :
    ∃ r before after, rs[n]? = some r ∧ r.texts = before ++ statement :: after ∧
      namespaceLeft before = current := by
  obtain ⟨r, before, after, hr, -, ht, hleft⟩ := h
  have hbefore : ∀ r ∈ rs.take n, r.Restores := fun r hr => hrs r (List.mem_of_mem_take hr)
  rw [namespaceLeft_append (namespaceLeft_executed hbefore)] at hleft
  exact ⟨r, before, after, hr, ht, hleft⟩

end Registration

theorem cons_eq_split {α : Type} {x y : α} {xs before after : List α}
    (h : x :: xs = before ++ y :: after) :
    before = [] ∧ y = x ∨ ∃ before', before = x :: before' ∧ xs = before' ++ y :: after := by
  rcases List.cons_eq_append_iff.1 h with ⟨hbefore, hcons⟩ | hlater
  · exact .inl ⟨hbefore, (List.cons.inj hcons).1⟩
  · exact .inr hlater

namespace Wrapper

open Registration RegistrationStatement

variable {w : Wrapper} {l : TemplateLibrary} {o : GlueOptions} {b : Binding}
  {before after : List String} {statement : String}

/-- A static function enters the namespace of its class and leaves it again, and the others stay
where they are. -/
theorem restores_of_bind (h : w.bind l o = .ok b) : b.registration.Restores := by
  obtain ⟨pointer, source?, -, rfl, -⟩ := bind_eq_ok h
  rw [binding, Restores, texts, statements, namespaceLeft]
  cases w.function.kind with
  | method =>
    rw [List.map_singleton, List.foldl_cons, List.foldl_nil, namespaceAfter_objectMethod]
  | static =>
    simp only [List.map_cons, List.map_nil, List.foldl_cons, List.foldl_nil]
    exact namespaceAfter_setNamespace (by decide)
  | free =>
    rw [List.map_singleton, List.foldl_cons, List.foldl_nil, namespaceAfter_globalFunction]

theorem exists_registersGlobal_of_bind (h : w.bind l o = .ok b) (hk : w.function.kind ≠ .method) :
    ∃ before statement after, b.registration.texts = before ++ statement :: after ∧
      registersGlobal statement = true := by
  obtain ⟨pointer, source?, -, rfl, -⟩ := bind_eq_ok h
  rw [binding, texts, statements]
  cases hkind : w.function.kind with
  | method => exact absurd hkind hk
  | static => exact ⟨[_], _, [_], rfl, registersGlobal_globalFunction⟩
  | free => exact ⟨[], _, [], rfl, registersGlobal_globalFunction⟩

theorem namespaceLeft_of_bind (h : w.bind l o = .ok b)
    (hq : w.function.kind = .static → '"' ∉ w.function.owner.shown.toList)
    (ht : b.registration.texts = before ++ statement :: after)
    (hg : registersGlobal statement = true) :
    w.function.kind = .free ∧ namespaceLeft before = "" ∨
      w.function.kind = .static ∧ namespaceLeft before = w.function.owner.shown := by
  obtain ⟨pointer, source?, -, rfl, -⟩ := bind_eq_ok h
  rw [binding, texts, statements] at ht
  cases hk : w.function.kind with
  | method =>
    rw [hk, List.map_singleton] at ht
    rcases cons_eq_split ht with ⟨-, rfl⟩ | ⟨before₁, -, ht₁⟩
    · rw [not_registersGlobal_objectMethod] at hg
      cases hg
    · simp at ht₁
  | static =>
    rw [hk, List.map_cons, List.map_cons, List.map_singleton] at ht
    rcases cons_eq_split ht with ⟨-, rfl⟩ | ⟨before₁, rfl, ht₁⟩
    · rw [not_registersGlobal_setNamespace] at hg
      cases hg
    rcases cons_eq_split ht₁ with ⟨rfl, -⟩ | ⟨before₂, -, ht₂⟩
    · exact .inr ⟨rfl, namespaceAfter_setNamespace (hq hk)⟩
    rcases cons_eq_split ht₂ with ⟨-, rfl⟩ | ⟨before₃, -, ht₃⟩
    · rw [not_registersGlobal_setNamespace] at hg
      cases hg
    · simp at ht₃
  | free =>
    rw [hk, List.map_singleton] at ht
    rcases cons_eq_split ht with ⟨rfl, -⟩ | ⟨before₁, -, ht₁⟩
    · exact .inl ⟨rfl, rfl⟩
    · simp at ht₁

end Wrapper

namespace FieldDecl

open Registration RegistrationStatement

variable {c : Catalog} {o : GlueOptions} {f : FieldDecl} {b : Binding}

theorem texts_of_bind (h : f.bind c o = .ok b) : ∃ declaration,
    b.registration.texts = [(objectProperty f.owner.shown declaration f.name.shown).text] := by
  obtain ⟨type, -, rfl⟩ := bind_eq_ok.1 h
  exact ⟨_, rfl⟩

theorem restores_of_bind (h : f.bind c o = .ok b) : b.registration.Restores := by
  obtain ⟨declaration, ht⟩ := texts_of_bind h
  rw [Restores, ht, namespaceLeft, List.foldl_cons, List.foldl_nil, namespaceAfter_objectProperty]

theorem not_registersGlobal_of_bind (h : f.bind c o = .ok b) :
    ∀ statement ∈ b.registration.texts, registersGlobal statement = false := by
  obtain ⟨declaration, ht⟩ := texts_of_bind h
  intro statement hs
  rw [ht, List.mem_singleton] at hs
  rw [hs, not_registersGlobal_objectProperty]

end FieldDecl

/-- With the macros, each of the blocks leaves the default namespace empty. What a block registers
as a global function belongs to the function at its position, and is registered in the namespace of
its class or, without a class, in none; and each function but a method is so registered. -/
structure Inputs.RestoresNamespace (i : Inputs) (defined : String → Bool)
    (rs : List Registration) : Prop where
  restored : ∀ n, Registration.namespaceLeft (Registration.executed defined (rs.take n)) = ""
  global : ∀ n current statement, Registration.Executes defined rs n current statement →
    RegistrationStatement.registersGlobal statement = true → ∃ w, i.selected[n]? = some w ∧
      (w.function.kind = .free ∧ current = "" ∨
        w.function.kind = .static ∧ current = w.function.owner.shown)
  registered : ∀ (n : Nat) w r, i.selected[n]? = some w → w.function.kind ≠ .method →
    rs[n]? = some r → Template.isCompiled defined r.guard? = true →
      ∃ current statement, Registration.Executes defined rs n current statement ∧
        RegistrationStatement.registersGlobal statement = true

namespace CommandLine

open Registration RegistrationStatement

variable {s s' : LoggedTree} {told : List Notice} {library : FileTree → TemplateLibrary}
  {o : GlueOptions} {d : Destination} {i : Inputs} {r : Report}

/-- The blocks of the registering function are those of the bound declarations in their order, and
keep to their namespaces whatever macros are defined. -/
theorem emit_restores_namespace (hl : ∀ t, library t = .packaged)
    (ho : o.bindingsTemplate = Template.bindingsName)
    (hq : ∀ f ∈ i.functions, f.kind = .static → '"' ∉ f.owner.shown.toList)
    (h : (emit s told library o d i).outcome = .ok (s', r)) :
    ∃ (wrappers : List String) (rs : List Registration),
      d.Holds s'.tree (Glue.sourceText o (i.headers o.strippedHead) wrappers (rs.map (·.text))) ∧
      r.bound = i.selected.map (·.entry) ++ (i.boundFields o).map (·.entry) ∧
      List.Forall₂ Registration.Registers rs r.bound ∧
      ∀ defined, i.RestoresNamespace defined rs := by
  obtain ⟨functions, hf, hholds, hbound⟩ := emit_bindings hl ho h
  -- The blocks before a statement leave no namespace, so that only its own block matters to it.
  have hfaithful : ∀ b ∈ functions ++ i.boundFields o, b.IsFaithful ∧ b.registration.Restores := by
    intro b hb
    rcases List.mem_append.1 hb with hb | hb
    · obtain ⟨w, -, hw⟩ := exists_of_mem_forall₂ hf hb
      exact ⟨Wrapper.bind_isFaithful hw, Wrapper.restores_of_bind hw⟩
    · obtain ⟨f, -, hf⟩ := Inputs.exists_bind_of_mem_boundFields hb
      exact ⟨FieldDecl.bind_isFaithful hf, FieldDecl.restores_of_bind hf⟩
  have hrestores : ∀ x ∈ (functions ++ i.boundFields o).map (·.registration), x.Restores := by
    intro x hx
    obtain ⟨b, hb, rfl⟩ := List.mem_map.1 hx
    exact (hfaithful b hb).2
  refine ⟨(functions ++ i.boundFields o).filterMap (·.wrapperSource?),
    (functions ++ i.boundFields o).map (·.registration), ?_, ?_, ?_, ?_⟩
  · rw [List.map_map]
    exact hholds
  · rw [hbound, List.map_append, Glue.entries_of_bind hf]
  · rw [hbound, List.forall₂_map_left_iff, List.forall₂_map_right_iff]
    exact List.forall₂_same.2 fun b hb => (hfaithful b hb).1.registered
  intro defined
  refine ⟨fun n => namespaceLeft_executed fun x hx => hrestores x (List.mem_of_mem_take hx),
    fun n current statement hexecutes hglobal => ?_, fun n w x hw hk hx hcompiled => ?_⟩
  · obtain ⟨x, before, after, hx, ht, rfl⟩ := hexecutes.inBlock hrestores
    rw [List.getElem?_map, Option.map_eq_some_iff] at hx
    obtain ⟨b, hb, rfl⟩ := hx
    rw [List.getElem?_append] at hb
    split at hb
    · obtain ⟨w, hw, hbind⟩ := exists_getElem?_of_forall₂ hf hb
      obtain ⟨f, hf, hbuild⟩ := Inputs.exists_build_of_mem_selected (List.mem_of_getElem? hw)
      refine ⟨w, hw, Wrapper.namespaceLeft_of_bind hbind ?_ ht hglobal⟩
      rw [Wrapper.function_of_build hbuild]
      exact hq f hf
    · obtain ⟨f, -, hf⟩ := Inputs.exists_bind_of_mem_boundFields (List.mem_of_getElem? hb)
      have hnone : registersGlobal statement = false :=
        FieldDecl.not_registersGlobal_of_bind hf statement (ht ▸ by simp)
      rw [hglobal] at hnone
      cases hnone
  · obtain ⟨b, hb, hbind⟩ := exists_getElem?_of_forall₂ hf.flip hw
    obtain ⟨hn, -⟩ := List.getElem?_eq_some_iff.1 hb
    obtain ⟨before, statement, after, ht, hglobal⟩ :=
      Wrapper.exists_registersGlobal_of_bind hbind hk
    have hbx : b.registration = x := by
      rw [List.getElem?_map, List.getElem?_append_left hn, hb] at hx
      exact Option.some.inj hx
    rw [hbx] at ht
    exact ⟨_, statement, ⟨x, before, after, hx, hcompiled, ht, rfl⟩, hglobal⟩

/-- A static function, a free one that is guarded, and a field. -/
def counters : Inputs where
  catalog := .build {} [{ name := "Node", isRefCounted := true }] [] []
  functions := [
    { name := "Count", returnType := .plain "int", kind := .static, owner := "Node" },
    { name := "Find", returnType := .plain "int", header := "Navigation/Find.h" }]
  fields := [{ name := "size", type := .plain "int", owner := "Node" }]

theorem emit_restores_namespace_counters :
    (∀ f ∈ counters.functions, f.kind = .static → '"' ∉ f.owner.shown.toList) ∧ ∃ s' r,
      (emit { tree := {} } [] (fun _ => .packaged) {} freshDestination counters).outcome =
        .ok (s', r) ∧
      ∃ (wrappers : List String) (rs : List Registration),
        freshDestination.Holds s'.tree
          (Glue.sourceText {} (counters.headers "") wrappers (rs.map (·.text))) ∧
        r.bound = counters.selected.map (·.entry) ++ (counters.boundFields {}).map (·.entry) ∧
        List.Forall₂ Registration.Registers rs r.bound ∧
        ∀ defined, counters.RestoresNamespace defined rs := by
  have hq : ∀ f ∈ counters.functions, f.kind = .static → '"' ∉ f.owner.shown.toList := by decide
  have hi : counters.IsTyped := by decide
  obtain ⟨s', r, h⟩ := emit_total (isReady_of_isTyped hi) []
  exact ⟨hq, s', r, h, emit_restores_namespace (fun _ => rfl) rfl hq h⟩

end CommandLine

end ScriptGlue

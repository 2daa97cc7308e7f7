import Mathlib.Data.List.Infix
import ScriptGlue.Conversion
import ScriptGlue.Proofs.Outcome
import ScriptGlue.Proofs.Shape

namespace ScriptGlue

theorem Table.mem_entries_of_get? [BEq κ] [LawfulBEq κ] {t : Table κ α} {k : κ} {v : α}
    (h : t.get? k = some v) : (k, v) ∈ t.entries := by
  obtain ⟨before, after, he, -⟩ := List.lookup_eq_some_iff.1 h
  rw [he]
  exact List.mem_append_right _ List.mem_cons_self

namespace Primitive

theorem scriptName_rel {P : String → String → Prop} (hs : ∀ e ∈ table.entries, P e.1 e.2)
    (hn : ∀ name, P name name) (name : String) : P name (scriptName name) := by
  rw [scriptName]
  cases h : scriptName? name with
  | none => exact hn name
  | some s => exact hs _ (Table.mem_entries_of_get? h)

theorem scriptName_eq_void (name : String) : scriptName name = "void" ↔ name = "void" :=
  scriptName_rel (P := fun name s => s = "void" ↔ name = "void") (by decide) (fun _ => .rfl) name

theorem contains_scriptName_bracket (name : String) :
    Text.contains (scriptName name) "<" = Text.contains name "<" :=
  scriptName_rel (P := fun name s => Text.contains s "<" = Text.contains name "<") (by decide)
    (fun _ => rfl) name

end Primitive

namespace Shape

/-- A wrapper can convert between the shape and a script array or handle. -/
def IsConvertible (c : Conventions) : Shape → Prop
  | .stringSequence | .pointerSequence _ | .valueSequence _ => True
  | .singleOwner e | .singleOwnerSequence e => e ∉ c.ownershipDenylist
  | .void | .context | .plain => False

end Shape

/-- The name is a list of strings or a container of one element, and no wrapper would have to hand
over the only reference to a denylisted one. -/
def Conventions.IsContainerName (c : Conventions) (name : String) : Prop :=
  name ∈ c.stringSequences ∨ ∃ e, Shape.IsElement e ∧
    (e ∉ c.ownershipDenylist ∧ (name = c.singleOwner ++ "<" ++ e ++ ">" ∨
        name = c.handleSequence ++ "<" ++ c.singleOwner ++ "<" ++ e ++ ">>") ∨
      name = c.valueSequence ++ "<" ++ e ++ ">" ∨ name = c.valueSequence ++ "<" ++ e ++ "*>")

def DefaultValue.suffix (default : Attribute) : String :=
  if default.isTruthy then " = " ++ declarationText default.shown else ""

namespace Conversion

/-- A wrapper has to stand in for the type. -/
structure IsGlued (r : Conversion) : Prop where
  nativeOverride : r.nativeOverride?.isSome
  glue : r.glue?.isSome

theorem IsGlued.glue_ne_none {r : Conversion} (h : r.IsGlued) : r.glue? ≠ none :=
  Option.isSome_iff_ne_none.1 h.glue

/-- The runtime takes the type as it stands. -/
structure IsDirect (c : Catalog) (t : CppType) (default : Attribute) (r : Conversion) : Prop where
  nativeOverride : r.nativeOverride? = none
  glue : r.glue? = none
  accepted : c.resolve t.name = .accepted
  noBracket : '<' ∉ t.name.toList
  noScope : ¬"::".toList <:+: t.name.toList
  noVoidPointer : ¬(t.name = "void" ∧ t.isPointer)
  handle : t.isPointer → t.isReference = false →
    (∃ k, c.class? t.name = some k ∧ (k.isRefCounted ∨ k.hasMarker c.conventions.fakeRefMarker)) ∧
      r.declaration = Primitive.scriptName t.name ++ "@+" ++ DefaultValue.suffix default

end Conversion

namespace Catalog

variable {c : Catalog} {t : CppType} {name : String} {usage : Usage} {default : Attribute}
  {s : Shape} {r : Conversion} {d : String}

theorem rejectQualifierShape_eq_ok : rejectQualifierShape t = .ok () ↔
    t.isRvalueReference = false ∧ t.isDoublePointer = false ∧ t.isReferenceToPointer = false := by
  rw [rejectQualifierShape]
  cases t.isRvalueReference <;> cases t.isDoublePointer <;> cases t.isReferenceToPointer <;>
    simp

theorem rejectDenylisted_eq_ok {e : String} {u : Unit} :
    c.rejectDenylisted t e = .ok u ↔ e ∉ c.conventions.ownershipDenylist := by
  rw [rejectDenylisted]
  split <;> simp_all

/-- What the rules for results make of handles and lists. -/
inductive IsGluedResult (c : Catalog) : Conversion → Prop
  | handle (e : String) : IsGluedResult c {
      declaration := Primitive.scriptName e ++ "@+"
      nativeOverride? := e ++ "*"
      glue? := "return result.Detach();" }
  | array (element call : String) : IsGluedResult c (c.arrayResult element call)

theorem IsGluedResult.isGlued (h : c.IsGluedResult r) : r.IsGlued := by
  cases h with
  | handle e => exact ⟨rfl, rfl⟩
  | array element call => exact ⟨rfl, rfl⟩

theorem resultRule_eq_some (h : c.resultRule t s = .ok (some r)) :
    s = .void ∧ t.isPointer = false ∧ r = { declaration := "void" } ∨
      s.IsConvertible c.conventions ∧ c.IsGluedResult r := by
  cases s with
  | void =>
    simp only [resultRule, Except.ok.injEq, ite_eq_iff, reduceCtorEq, and_false, false_or,
      Option.some.injEq] at h
    exact .inl ⟨rfl, by simpa using h.1, h.2.symm⟩
  | stringSequence =>
    simp only [resultRule, Except.ok.injEq, ite_eq_iff, reduceCtorEq, and_false, false_or,
      Option.some.injEq] at h
    rw [← h.2]
    exact .inr ⟨trivial, .array _ _⟩
  | context => cases h
  | singleOwner e =>
    obtain ⟨u, hu, h⟩ := Outcome.bind_eq_ok.1 h
    cases h
    exact .inr ⟨rejectDenylisted_eq_ok.1 hu, .handle e⟩
  | singleOwnerSequence e =>
    obtain ⟨u, hu, h⟩ := Outcome.bind_eq_ok.1 h
    cases h
    exact .inr ⟨rejectDenylisted_eq_ok.1 hu, .array _ _⟩
  | pointerSequence e =>
    cases h
    exact .inr ⟨trivial, .array _ _⟩
  | valueSequence e =>
    simp only [resultRule, Except.ok.injEq, ite_eq_iff, reduceCtorEq, and_false, or_false,
      Option.some.injEq] at h
    rw [← h.2]
    exact .inr ⟨trivial, .array _ _⟩
  | plain => cases h

theorem parameterRule_eq_some (h : c.parameterRule t name default s = .ok (some r)) :
    s.IsConvertible c.conventions ∧
      ∃ declaration call, r = c.arrayParameter t name declaration call := by
  cases s with
  | context => cases h
  | stringSequence =>
    simp only [parameterRule, Except.ok.injEq, ite_eq_iff, reduceCtorEq, and_false, or_false,
      Option.some.injEq] at h
    exact ⟨trivial, _, _, h.2.symm⟩
  | singleOwnerSequence e =>
    obtain ⟨-, h⟩ := Outcome.ite_none_eq_some.1 h
    obtain ⟨u, hu, h⟩ := Outcome.bind_eq_ok.1 h
    obtain ⟨v, -, h⟩ := Outcome.bind_eq_ok.1 h
    cases h
    exact ⟨rejectDenylisted_eq_ok.1 hu, _, _, rfl⟩
  | pointerSequence e =>
    obtain ⟨-, h⟩ := Outcome.ite_none_eq_some.1 h
    obtain ⟨v, -, h⟩ := Outcome.bind_eq_ok.1 h
    cases h
    exact ⟨trivial, _, _, rfl⟩
  | valueSequence e =>
    obtain ⟨-, h⟩ := Outcome.ite_none_eq_some.1 h
    obtain ⟨v, -, h⟩ := Outcome.bind_eq_ok.1 h
    cases h
    exact ⟨trivial, _, _, rfl⟩
  | void => cases h
  | singleOwner e => cases h
  | plain => cases h

/-- What a script sees of an accepted type, before a default value is added. -/
def typeText (c : Catalog) (t : CppType) (usage : Usage) : Except Rejection String :=
  if t.isConst && t.isReference && usage == .parameter then
    .ok ("const " ++ Primitive.scriptName t.name ++ "&in")
  else (c.referenceOrHandle t).map fun d =>
    if usage == .result && t.isConst && !t.isPointer then "const " ++ d else d

theorem append_suffix (text : String) (default : Attribute) :
    text ++ DefaultValue.suffix default =
      if default.isTruthy then text ++ " = " ++ DefaultValue.declarationText default.shown
      else text := by
  rw [DefaultValue.suffix]
  split <;> simp [String.append_assoc]

theorem requireBindable_eq_ok {u : Unit} :
    c.requireBindable t = .ok u ↔ c.resolve t.name = .accepted := by
  rw [requireBindable]
  cases c.resolve t.name <;> simp

/-- A type that the general rules take is accepted, is no void pointer and has no template
arguments. -/
theorem generalDeclaration_eq_ok :
    c.generalDeclaration t usage default = .ok d ↔
      (t.name = c.conventions.contextType → usage ≠ .result) ∧ c.resolve t.name = .accepted ∧
        (t.name = "void" → t.isPointer = false) ∧ Text.contains t.name "<" = false ∧
        ∃ text, c.typeText t usage = .ok text ∧ text ++ DefaultValue.suffix default = d := by
  rw [generalDeclaration]
  refine Outcome.throw_or_eq_ok.trans (and_congr (by simp) ?_)
  refine Outcome.bind_eq_ok.trans ?_
  simp only [requireBindable_eq_ok, exists_const]
  refine and_congr_right fun _ => ?_
  refine Outcome.throw_or_eq_ok.trans (and_congr (by simp [Primitive.scriptName_eq_void]) ?_)
  refine Outcome.throw_or_eq_ok.trans
    (and_congr (by simp [Primitive.contains_scriptName_bracket]) ?_)
  simp only [append_suffix]
  rw [typeText]
  split
  · simp [Outcome.pure_eq_ok]
  · refine Outcome.bind_eq_ok.trans ?_
    simp only [Outcome.map_eq_ok, Outcome.pure_eq_ok, pure_bind, exists_exists_and_eq_and]

theorem isContainerName_of_isConvertible
    (h : (Shape.classify c.conventions t).IsConvertible c.conventions) :
    c.conventions.IsContainerName t.name := by
  have hw := Shape.ofName_isWritten c.conventions t.name
  rw [Shape.classify] at h
  cases hs : Shape.ofName c.conventions t.name with
  | stringSequence =>
    rw [hs] at hw
    exact .inl hw
  | singleOwner e =>
    rw [hs] at h hw
    exact .inr ⟨e, hw.1, .inl ⟨h, .inl hw.2⟩⟩
  | singleOwnerSequence e =>
    rw [hs] at h hw
    exact .inr ⟨e, hw.1, .inl ⟨h, .inr hw.2⟩⟩
  | pointerSequence e =>
    rw [hs] at hw
    exact .inr ⟨e, hw.1, .inr (.inr hw.2)⟩
  | valueSequence e =>
    rw [hs] at hw
    exact .inr ⟨e, hw.1, .inr (.inl hw.2)⟩
  | void => rw [hs] at h; exact h.elim
  | context => rw [hs] at h; exact h.elim
  | plain => rw [hs] at h; exact h.elim

theorem resolve_eq_accepted {name : String} : c.resolve name = .accepted ↔
    Text.contains name "::" = false ∧ c.isKnown name = true ∧
      (c.class? name).any (·.isInternal) = false ∧
      (c.class? name).any (·.hasMarker c.conventions.noBindMarker) = false ∧
      (c.isAlias name = true → name ∈ c.conventions.aliasWhitelist) := by
  rw [resolve]
  split_ifs <;> simp_all

theorem supportsHandles_iff {name : String} : c.supportsHandles name = true ↔
    ∃ k, c.class? name = some k ∧ (k.isRefCounted ∨ k.hasMarker c.conventions.fakeRefMarker) := by
  rw [supportsHandles]
  rw [Option.any_eq_true]
  simp only [Bool.or_eq_true]

theorem typeText_pointer (hp : t.isPointer = true) (hr : t.isReference = false) {text : String} :
    c.typeText t usage = .ok text ↔
      c.supportsHandles t.name = true ∧ Primitive.scriptName t.name ++ "@+" = text := by
  rw [typeText, referenceOrHandle]
  by_cases hs : c.supportsHandles t.name = true <;> simp [hp, hr, hs, Except.map]

theorem convert_eq_ok : c.convert t name usage default = .ok r ↔
    c.shapeRule t name usage default = .ok (some r) ∨
      c.shapeRule t name usage default = .ok none ∧
        ∃ d, c.generalDeclaration t usage default = .ok d ∧ r = { declaration := d } := by
  rw [convert]
  rw [Outcome.bind_eq_ok]
  constructor
  · rintro ⟨_ | conversion, hs, h⟩
    · obtain ⟨d, hd, h⟩ := Outcome.bind_eq_ok.1 h
      exact .inr ⟨hs, d, hd, (Outcome.pure_eq_ok.1 h).symm⟩
    · rw [← Outcome.pure_eq_ok.1 h]
      exact .inl hs
  · rintro (hs | ⟨hs, d, hd, rfl⟩)
    · exact ⟨some r, hs, rfl⟩
    · exact ⟨none, hs, Outcome.bind_eq_ok.2 ⟨d, hd, rfl⟩⟩

theorem rejectQualifierShape_of_shapeRule {r? : Option Conversion}
    (h : c.shapeRule t name usage default = .ok r?) : rejectQualifierShape t = .ok () := by
  obtain ⟨⟨⟩, hq, -⟩ := Outcome.bind_eq_ok.1 h
  exact hq

theorem rejectQualifierShape_of_convert (h : c.convert t name usage default = .ok r) :
    rejectQualifierShape t = .ok () := by
  rcases convert_eq_ok.1 h with hs | ⟨hs, -⟩
  · exact rejectQualifierShape_of_shapeRule hs
  · exact rejectQualifierShape_of_shapeRule hs

theorem convert_void (hn : t.name = "void") (h : c.convert t name .result = .ok r) :
    t.isPointer = false ∧ r = { declaration := "void" } := by
  have hvoid : Shape.classify c.conventions t = .void := by
    rw [Shape.classify, hn]
    rfl
  rcases convert_eq_ok.1 h with hs | ⟨hs, d, hd, -⟩
  · obtain ⟨u, -, hrule⟩ := Outcome.bind_eq_ok.1 hs
    rcases resultRule_eq_some hrule with ⟨-, hp, hr⟩ | ⟨hc, -⟩
    · exact ⟨hp, hr⟩
    · rw [hvoid] at hc
      exact hc.elim
  · obtain ⟨u, -, hrule⟩ := Outcome.bind_eq_ok.1 hs
    obtain ⟨-, -, hp, -⟩ := generalDeclaration_eq_ok.1 hd
    simp [hvoid, resultRule, hp hn] at hrule

theorem shapeRule_result_eq_some (h : c.shapeRule t name .result default = .ok (some r)) :
    t.name = "void" ∧ t.isPointer = false ∧ r = { declaration := "void" } ∨
      c.IsGluedResult r ∧ c.conventions.IsContainerName t.name := by
  obtain ⟨u, -, h⟩ := Outcome.bind_eq_ok.1 h
  rcases resultRule_eq_some h with ⟨hs, hp, hr⟩ | ⟨hs, hg⟩
  · have hn := Shape.ofName_isWritten c.conventions t.name
    rw [← Shape.classify, hs] at hn
    exact .inl ⟨hn, hp, hr⟩
  · exact .inr ⟨hg, isContainerName_of_isConvertible hs⟩

theorem shapeRule_parameter_eq_some (h : c.shapeRule t name .parameter default = .ok (some r)) :
    (∃ declaration call, r = c.arrayParameter t name declaration call) ∧
      c.conventions.IsContainerName t.name := by
  obtain ⟨u, -, h⟩ := Outcome.bind_eq_ok.1 h
  obtain ⟨hs, hr⟩ := parameterRule_eq_some h
  exact ⟨hr, isContainerName_of_isConvertible hs⟩

theorem shapeRule_eq_some (h : c.shapeRule t name usage default = .ok (some r)) :
    usage = .result ∧ t.name = "void" ∧ t.isPointer = false ∧ r = { declaration := "void" } ∨
      r.IsGlued ∧ c.conventions.IsContainerName t.name := by
  cases usage with
  | result =>
    rcases shapeRule_result_eq_some h with hv | ⟨hg, hn⟩
    · exact .inl ⟨rfl, hv⟩
    · exact .inr ⟨hg.isGlued, hn⟩
  | parameter =>
    obtain ⟨⟨declaration, call, rfl⟩, hn⟩ := shapeRule_parameter_eq_some h
    exact .inr ⟨⟨rfl, rfl⟩, hn⟩

theorem generalDeclaration_isDirect (h : c.generalDeclaration t usage default = .ok d) :
    Conversion.IsDirect c t default { declaration := d } where
  nativeOverride := rfl
  glue := rfl
  accepted := (generalDeclaration_eq_ok.1 h).2.1
  noBracket := by
    obtain ⟨-, -, -, hb, -⟩ := generalDeclaration_eq_ok.1 h
    intro hm
    rw [← Bool.not_eq_true, Text.contains_iff] at hb
    exact hb ((List.singleton_infix_iff _ _).2 hm)
  noScope := by
    obtain ⟨-, ha, -⟩ := generalDeclaration_eq_ok.1 h
    rw [← Text.contains_iff, Bool.not_eq_true]
    exact (resolve_eq_accepted.1 ha).1
  noVoidPointer := by
    obtain ⟨-, -, hv, -⟩ := generalDeclaration_eq_ok.1 h
    rintro ⟨hn, hp⟩
    rw [hv hn] at hp
    cases hp
  handle := by
    obtain ⟨-, -, -, -, text, ht, rfl⟩ := generalDeclaration_eq_ok.1 h
    intro hp hr
    obtain ⟨hs, rfl⟩ := (typeText_pointer hp hr).1 ht
    exact ⟨supportsHandles_iff.1 hs, rfl⟩

/-- A type that converts is a void result, or a container that a wrapper converts, or a type that
the resolver accepts and the runtime takes as it stands. -/
theorem convert_forms (h : c.convert t name usage default = .ok r) :
    usage = .result ∧ t.name = "void" ∧ t.isPointer = false ∧ r = { declaration := "void" } ∨
      r.IsGlued ∧ c.conventions.IsContainerName t.name ∨ r.IsDirect c t default := by
  rcases convert_eq_ok.1 h with hs | ⟨-, d, hd, rfl⟩
  · rcases shapeRule_eq_some hs with hv | hg
    · exact .inl hv
    · exact .inr (.inl hg)
  · exact .inr (.inr (generalDeclaration_isDirect hd))

/-- A borrowed handle to a counted class, with a default value. -/
theorem convert_forms_handle :
    let c := build {} [{ name := "Node", isRefCounted := true }] [] []
    let t : CppType := { name := "Node", isPointer := true }
    let r : Conversion := { declaration := "Node@+ = null" }
    c.convert t "node" .parameter "nullptr" = .ok r ∧
      (Usage.parameter = .result ∧ t.name = "void" ∧ t.isPointer = false ∧
          r = { declaration := "void" } ∨
        r.IsGlued ∧ c.conventions.IsContainerName t.name ∨ r.IsDirect c t "nullptr") := by
  intro c t r
  have h : c.convert t "node" .parameter "nullptr" = .ok r :=
    Outcome.toOption_eq_some.1 (by decide)
  exact ⟨h, convert_forms h⟩

end Catalog

end ScriptGlue

import ScriptGlue.Proofs.Conversion

namespace ScriptGlue

namespace Shape

theorem ofName_of_noBracket {c : Conventions} {name : String} (h : '<' ∉ name.toList) :
    ofName c name = .void ∨ ofName c name = .stringSequence ∨ ofName c name = .context ∨
      ofName c name = .plain := by
  have hw := ofName_isWritten c name
  cases hs : ofName c name with
  | void => exact .inl rfl
  | stringSequence => exact .inr (.inl rfl)
  | context => exact .inr (.inr (.inl rfl))
  | plain => exact .inr (.inr (.inr rfl))
  | _ =>
    rw [hs] at hw
    exact absurd (by rw [hw.2]; simp) h

end Shape

namespace Catalog

variable {c : Catalog} {t : CppType} {name : String} {usage : Usage} {default : Attribute}
  {r : Conversion} {d : String}

/-- The type has a rule of its own although its name has no template arguments: it is void, the
engine context as a parameter, or a list of strings under such a name. -/
def IsRuledByName (c : Catalog) (t : CppType) (usage : Usage) : Prop :=
  t.name = "void" ∨ (t.name = c.conventions.contextType ∧ usage = .parameter) ∨
    (t.name ∈ c.conventions.stringSequences ∧ '<' ∉ t.name.toList)

theorem noBracket_of_generalDeclaration (h : c.generalDeclaration t usage default = .ok d) :
    '<' ∉ t.name.toList :=
  (generalDeclaration_isDirect h).noBracket

theorem shapeRule_of_generalDeclaration (hr : ¬c.IsRuledByName t usage)
    (hq : rejectQualifierShape t = .ok ()) (hd : c.generalDeclaration t usage default = .ok d)
    (name : String) (default' : Attribute) :
    c.shapeRule t name usage default' = .ok none := by
  have hb := noBracket_of_generalDeclaration hd
  have hn := Shape.ofName_isWritten c.conventions t.name
  have hplain : Shape.classify c.conventions t = .plain := by
    rw [Shape.classify]
    rcases Shape.ofName_of_noBracket (c := c.conventions) hb with hs | hs | hs | hs
    · rw [hs] at hn
      exact absurd (.inl hn) hr
    · rw [hs] at hn
      exact absurd (.inr (.inr ⟨hn, hb⟩)) hr
    · rw [hs] at hn
      cases usage with
      | result => exact absurd rfl ((generalDeclaration_eq_ok.1 hd).1 hn)
      | parameter => exact absurd (.inr (.inl ⟨hn, rfl⟩)) hr
    · exact hs
  refine Outcome.bind_total hq ?_
  rw [hplain]
  cases usage with
  | result => rfl
  | parameter => rfl

theorem scriptDeclaration_eq_ok : c.scriptDeclaration t usage = .ok d ↔
    rejectQualifierShape t = .ok () ∧ c.generalDeclaration t usage .null = .ok d := by
  rw [scriptDeclaration]
  rw [Outcome.bind_eq_ok]
  exact ⟨fun ⟨⟨⟩, hq, hd⟩ => ⟨hq, hd⟩, fun ⟨hq, hd⟩ => ⟨(), hq, hd⟩⟩

theorem convert_eq_ok_of_glue (hr : ¬c.IsRuledByName t usage) :
    (c.convert t name usage default = .ok r ∧ r.glue? = none) ↔
      c.shapeRule t name usage default = .ok none ∧
        ∃ d, c.generalDeclaration t usage default = .ok d ∧ r = { declaration := d } := by
  rw [convert_eq_ok]
  constructor
  · rintro ⟨hs | hd, hg⟩
    · rcases shapeRule_eq_some hs with ⟨-, hv, -⟩ | ⟨hglued, -⟩
      · exact absurd (.inl hv) hr
      · exact absurd hg hglued.glue_ne_none
    · exact hd
  · rintro ⟨hs, d, hd, rfl⟩
    exact ⟨.inr ⟨hs, d, hd, rfl⟩, rfl⟩

/-- The short way to a declaration succeeds exactly where the full conversion does without glue, and
with the same declaration, whatever the name of the parameter. Where the conversion needs glue or
fails, so does the short way. -/
theorem scriptDeclaration_eq_ok_iff (ht : t.name ≠ "void")
    (hc : ¬(t.name = c.conventions.contextType ∧ usage = .parameter))
    (hs : t.name ∈ c.conventions.stringSequences → '<' ∈ t.name.toList) (name : String) :
    (∀ d, c.scriptDeclaration t usage = .ok d ↔
      ∃ r, c.convert t name usage = .ok r ∧ r.glue? = none ∧ r.declaration = d) ∧
    ((∃ r, c.convert t name usage = .ok r ∧ r.glue? ≠ none) ∨
        (∃ e, c.convert t name usage = .error e) →
      ∃ e, c.scriptDeclaration t usage = .error e) := by
  have hr : ¬c.IsRuledByName t usage := by
    rintro (h | h | ⟨h, hb⟩)
    · exact ht h
    · exact hc h
    · exact hb (hs h)
  have hiff : ∀ d, c.scriptDeclaration t usage = .ok d ↔
      ∃ r, c.convert t name usage = .ok r ∧ r.glue? = none ∧ r.declaration = d := by
    intro d
    rw [scriptDeclaration_eq_ok]
    constructor
    · rintro ⟨hq, hd⟩
      have hshape := shapeRule_of_generalDeclaration hr hq hd name .null
      obtain ⟨hconvert, hg⟩ := (convert_eq_ok_of_glue hr).2 ⟨hshape, d, hd, rfl⟩
      exact ⟨_, hconvert, hg, rfl⟩
    · rintro ⟨r, hconvert, hg, rfl⟩
      obtain ⟨hshape, d, hd, rfl⟩ := (convert_eq_ok_of_glue hr).1 ⟨hconvert, hg⟩
      exact ⟨rejectQualifierShape_of_shapeRule hshape, hd⟩
  refine ⟨hiff, fun h => ?_⟩
  cases hdeclaration : c.scriptDeclaration t usage with
  | error e => exact ⟨e, rfl⟩
  | ok d =>
    obtain ⟨r, hconvert, hg, -⟩ := (hiff d).1 hdeclaration
    rcases h with ⟨r', hr', hg'⟩ | ⟨e, he⟩
    · rw [hconvert] at hr'
      cases hr'
      exact absurd hg hg'
    · rw [hconvert] at he
      cases he

/-- A pointer to a counted class has one declaration both ways, and a list of pointers, which a
wrapper converts, has none the short way. -/
theorem scriptDeclaration_eq_ok_iff_node :
    let c : Catalog := .build {} [{ name := "Node", isRefCounted := true }] [] []
    let node : CppType := { name := "Node", isPointer := true }
    let nodes : CppType := { name := "PODVector<Node*>", isConst := true, isReference := true }
    c.scriptDeclaration node .parameter = .ok "Node@+" ∧
      ∃ e, c.scriptDeclaration nodes .parameter = .error e := by
  intro c node nodes
  have hnode : c.convert node "node" .parameter = .ok { declaration := "Node@+" } :=
    Outcome.toOption_eq_some.1 (by decide)
  have hnodes : c.convert nodes "nodes" .parameter =
      .ok (c.arrayParameter nodes "nodes" "Array<Node@>@" "ArrayToPODVector<Node*>") :=
    Outcome.toOption_eq_some.1 (by decide)
  constructor
  · exact ((scriptDeclaration_eq_ok_iff (by decide) (by decide) (by decide) "node").1 _).2
      ⟨_, hnode, rfl, rfl⟩
  · exact (scriptDeclaration_eq_ok_iff (by decide) (by decide) (by decide) "nodes").2
      (.inl ⟨_, hnodes, Option.some_ne_none _⟩)

end Catalog

end ScriptGlue

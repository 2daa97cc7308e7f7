import ScriptGlue.CppType.Spelling
import ScriptGlue.Proofs.Conversion

namespace ScriptGlue

namespace CppType

/-- A parameter is made anew for a constant reference. A result is copied or emptied, so it is no
pointer, and nobody else may still change it through a reference. -/
def IsOperand (t : CppType) : Usage → Prop
  | .parameter => t.isConst = true ∧ t.isReference = true ∧ t.isPointer = false
  | .result => t.isPointer = false ∧ (t.isReference = true → t.isConst = true)

instance (t : CppType) : (usage : Usage) → Decidable (t.IsOperand usage)
  | .parameter => inferInstanceAs (Decidable (_ ∧ _))
  | .result => inferInstanceAs (Decidable (_ ∧ _))

/-- The signs depend on one another as they do in a spelling. -/
structure HasSpelledSigns (t : CppType) : Prop where
  isReferenceToPointer : t.isReferenceToPointer = (t.isReference && t.isPointer)
  isPointer : t.isDoublePointer = true → t.isPointer = true
  isReference : t.isRvalueReference = true → t.isReference = false

theorem ofSpelling_hasSpelledSigns (s : String) : (ofSpelling s).HasSpelledSigns where
  isReferenceToPointer := rfl
  isPointer := by
    simp only [ofSpelling, ofChars, decide_eq_true_eq]
    omega
  isReference := by
    simp only [ofSpelling, ofChars]
    intro h
    rw [h, Bool.not_true, Bool.and_false]

end CppType

namespace Shape

def TakesResult (t : CppType) : Shape → Prop
  | .stringSequence => t.isPointer = false
  | .valueSequence _ => t.isConst = t.isReference
  | _ => True

/-- What it does not ask although its statement needs it. -/
def IsOpenToResult (t : CppType) : Shape → Prop
  | .stringSequence => t.isPointer = false ∧ t.isReference = true ∧ t.isConst = false
  | .valueSequence _ => t.isPointer = true ∧ t.isReference = false ∧ t.isConst = false
  | _ => t.isPointer = true ∨ t.isReference = true ∧ t.isConst = false

end Shape

namespace Catalog

variable {c : Catalog} {t : CppType} {name : String} {usage : Usage} {default : Attribute}
  {s : Shape} {r : Conversion}

theorem shapeRule_of_glue (h : c.convert t name usage default = .ok r) (hg : r.glue? ≠ none) :
    c.shapeRule t name usage default = .ok (some r) := by
  rcases convert_eq_ok.1 h with hs | ⟨-, d, -, rfl⟩
  · exact hs
  · exact absurd rfl hg

theorem isConst_of_parameterRule (h : c.parameterRule t name default s = .ok (some r)) :
    t.isConst = true ∧ t.isReference = true := by
  cases s with
  | context => cases h
  | stringSequence =>
    simp only [parameterRule, Except.ok.injEq, ite_eq_iff, reduceCtorEq, and_false, or_false,
      Bool.and_eq_true] at h
    exact ⟨h.1.1.2, h.1.2⟩
  | singleOwnerSequence e => simpa using (Outcome.ite_none_eq_some.1 h).1
  | pointerSequence e => simpa using (Outcome.ite_none_eq_some.1 h).1
  | valueSequence e => simpa using (Outcome.ite_none_eq_some.1 h).1
  | void => cases h
  | singleOwner e => cases h
  | plain => cases h

theorem exists_resultRule_iff : (∃ r, c.resultRule t s = .ok (some r) ∧ r.glue? ≠ none) ↔
    s.IsConvertible c.conventions ∧ s.TakesResult t := by
  constructor
  · rintro ⟨r, h, hg⟩
    rcases resultRule_eq_some h with ⟨-, -, rfl⟩ | ⟨hs, -⟩
    · exact absurd rfl hg
    · refine ⟨hs, ?_⟩
      cases s with
      | stringSequence =>
        simp only [resultRule, Except.ok.injEq, ite_eq_iff, reduceCtorEq, and_false, false_or] at h
        exact Bool.eq_false_iff.2 h.1
      | valueSequence e =>
        simp only [resultRule, Except.ok.injEq, ite_eq_iff, reduceCtorEq, and_false, or_false] at h
        exact beq_iff_eq.1 h.1
      | _ => trivial
  · rintro ⟨hs, ht⟩
    cases s with
    | stringSequence =>
      have hp : t.isPointer = false := ht
      exact ⟨_, congrArg Except.ok (if_neg (by simp [hp])), Option.some_ne_none _⟩
    | singleOwner e =>
      exact ⟨_, Outcome.bind_total (rejectDenylisted_eq_ok (u := ()).2 hs) rfl,
        Option.some_ne_none _⟩
    | singleOwnerSequence e =>
      exact ⟨_, Outcome.bind_total (rejectDenylisted_eq_ok (u := ()).2 hs) rfl,
        Option.some_ne_none _⟩
    | pointerSequence e => exact ⟨_, rfl, Option.some_ne_none _⟩
    | valueSequence e =>
      have he : t.isConst = t.isReference := ht
      exact ⟨_, congrArg Except.ok (if_pos (by simp [he])), Option.some_ne_none _⟩
    | void => exact hs.elim
    | context => exact hs.elim
    | plain => exact hs.elim

theorem exists_convert_result_iff :
    (∃ r, c.convert t name .result default = .ok r ∧ r.glue? ≠ none) ↔
      rejectQualifierShape t = .ok () ∧
        (Shape.classify c.conventions t).IsConvertible c.conventions ∧
        (Shape.classify c.conventions t).TakesResult t := by
  rw [← exists_resultRule_iff]
  constructor
  · rintro ⟨r, h, hg⟩
    obtain ⟨⟨⟩, hq, hrule⟩ := Outcome.bind_eq_ok.1 (shapeRule_of_glue h hg)
    exact ⟨hq, r, hrule, hg⟩
  · rintro ⟨hq, r, hrule, hg⟩
    exact ⟨r, convert_eq_ok.2 (.inl (Outcome.bind_total hq hrule)), hg⟩

theorem isOpenToResult_iff (h : (t.isReference && t.isPointer) = false) :
    s.IsOpenToResult t ↔ s.TakesResult t ∧ ¬t.IsOperand .result := by
  cases s <;> cases hr : t.isReference <;> cases hp : t.isPointer <;> cases hc : t.isConst <;>
    simp_all [Shape.IsOpenToResult, Shape.TakesResult, CppType.IsOperand]

/-- What a statement converts can be converted by it, except in the results that the rules are open
to: a list of strings that is a reference to change, a pointer to a list of values, and handles,
lists of handles and lists of pointers that are any of the two. -/
theorem convert_isOperand_iff (ht : t.HasSpelledSigns) (c : Catalog) (name : String)
    (usage : Usage) (default : Attribute) :
    (∀ r, c.convert t name usage default = .ok r → r.glue? ≠ none → t.IsOperand usage) ↔
      ¬(usage = .result ∧ rejectQualifierShape t = .ok () ∧
        (Shape.classify c.conventions t).IsConvertible c.conventions ∧
        (Shape.classify c.conventions t).IsOpenToResult t) := by
  have hsigns (hq : rejectQualifierShape t = .ok ()) : (t.isReference && t.isPointer) = false := by
    rw [← ht.isReferenceToPointer]
    exact (rejectQualifierShape_eq_ok.1 hq).2.2
  cases usage with
  | parameter =>
    refine iff_of_true (fun r h hg => ?_) (by simp)
    have hs := shapeRule_of_glue h hg
    obtain ⟨u, -, hrule⟩ := Outcome.bind_eq_ok.1 hs
    obtain ⟨hc, hr⟩ := isConst_of_parameterRule hrule
    refine ⟨hc, hr, ?_⟩
    have hp := hsigns (rejectQualifierShape_of_shapeRule hs)
    rwa [hr, Bool.true_and] at hp
  | result =>
    constructor
    · rintro h ⟨-, hq, hs, ho⟩
      obtain ⟨htakes, hnot⟩ := (isOpenToResult_iff (hsigns hq)).1 ho
      obtain ⟨r, hr, hg⟩ : ∃ r, c.convert t name .result default = .ok r ∧ r.glue? ≠ none :=
        exists_convert_result_iff.2 ⟨hq, hs, htakes⟩
      exact hnot (h r hr hg)
    · intro h r hr hg
      by_contra hnot
      obtain ⟨hq, hs, htakes⟩ := exists_convert_result_iff.1 ⟨r, hr, hg⟩
      exact h ⟨rfl, hq, hs, (isOpenToResult_iff (hsigns hq)).2 ⟨htakes, hnot⟩⟩

/-- A constant reference is converted in both uses. -/
theorem convert_isOperand_nodes :
    let c : Catalog := {}
    let t : CppType := .ofSpelling "const Vector<SharedPtr<Node>>&"
    t.HasSpelledSigns ∧ (c.convert t "" .result).toOption.bind (·.glue?) =
        some "return VectorToHandleArray(result, \"Array<Node@>\");" ∧
      (c.convert t "nodes" .parameter).toOption.bind (·.glue?) =
        some "Vector<SharedPtr<Node>> nodes = HandleArrayToVector<Node>(nodes_conv);" ∧
      t.IsOperand .result ∧ t.IsOperand .parameter := by
  intro c t
  have ht : t.HasSpelledSigns := CppType.ofSpelling_hasSpelledSigns _
  have hr : c.convert t "" .result =
      .ok (c.arrayResult "Node@" "VectorToHandleArray") := Outcome.toOption_eq_some.1 (by decide)
  have hp : c.convert t "nodes" .parameter = .ok (c.arrayParameter t "nodes" "Array<Node@>@+"
      "HandleArrayToVector<Node>") := Outcome.toOption_eq_some.1 (by decide)
  refine ⟨ht, by rw [hr]; rfl, by rw [hp]; rfl, ?_, ?_⟩
  · refine (convert_isOperand_iff ht c "" .result .null).2 ?_ _ hr (Option.some_ne_none _)
    rintro ⟨-, -, -, ho⟩
    have hs : Shape.classify c.conventions t = .singleOwnerSequence "Node" := by decide
    rw [hs] at ho
    revert ho
    show ¬(_ ∨ _)
    decide
  · exact (convert_isOperand_iff ht c "nodes" .parameter .null).2 (by simp) _ hp
      (Option.some_ne_none _)

/-- Results that are pointers, or references through which they may still be changed, each with the
statement that is made for it. -/
def borrowedResults : List (String × String) := [
  ("SharedPtr<Node>*", "return result.Detach();"),
  ("SharedPtr<Node>&", "return result.Detach();"),
  ("Vector<SharedPtr<Node>>*", "return VectorToHandleArray(result, \"Array<Node@>\");"),
  ("Vector<SharedPtr<Node>>&", "return VectorToHandleArray(result, \"Array<Node@>\");"),
  ("PODVector<Node*>*", "return VectorToHandleArray(result, \"Array<Node@>\");"),
  ("PODVector<Node*>&", "return VectorToHandleArray(result, \"Array<Node@>\");"),
  ("PODVector<int>*", "return VectorToArray(result, \"Array<int>\");"),
  ("Vector<String>&", "return VectorToArray<String>(result, \"Array<String>\");")]

theorem convert_takes_borrowedResults :
    (∀ x ∈ borrowedResults,
        (({} : Catalog).convert (.ofSpelling x.1) "" .result).toOption.bind (·.glue?) =
          some x.2) ∧
      ∀ x ∈ borrowedResults, ¬(CppType.ofSpelling x.1).IsOperand .result := by
  constructor
  · decide +kernel
  · decide +kernel

end Catalog

end ScriptGlue

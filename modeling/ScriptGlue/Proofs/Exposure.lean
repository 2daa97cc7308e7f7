import ScriptGlue.Proofs.Conversion

namespace ScriptGlue

/-- The class that the declaration of a converted type mentions: the element of a container or
handle, and otherwise the type itself. -/
def CppType.mentioned (c : Conventions) (t : CppType) : String :=
  (Shape.classify c t).element?.getD t.name

namespace Catalog

/-- The class of the name is recorded as internal, or it carries the mark that keeps it from
scripts. -/
def IsWithheld (c : Catalog) (name : String) : Prop :=
  ∃ k, c.class? name = some k ∧ (k.isInternal ∨ k.hasMarker c.conventions.noBindMarker)

instance (c : Catalog) (name : String) : Decidable (c.IsWithheld name) :=
  decidable_of_iff
    ((c.class? name).any fun k => k.isInternal || k.hasMarker c.conventions.noBindMarker) <| by
    simp only [IsWithheld, Option.any_eq_true, Bool.or_eq_true]

variable {c c' : Catalog} {t : CppType} {name : String} {usage : Usage} {default : Attribute}
  {r : Conversion}

theorem not_isWithheld_of_accepted (h : c.resolve name = .accepted) : ¬c.IsWithheld name := by
  obtain ⟨-, -, hinternal, hmark, -⟩ := resolve_eq_accepted.1 h
  rintro ⟨k, hk, hw⟩
  rw [hk, Option.any_some] at hinternal hmark
  rcases hw with hw | hw
  · rw [hw] at hinternal
    cases hinternal
  · rw [hw] at hmark
    cases hmark

theorem rejectDenylisted_congr (h : c'.conventions = c.conventions) (t : CppType) (e : String) :
    c'.rejectDenylisted t e = c.rejectDenylisted t e := by
  rw [rejectDenylisted, rejectDenylisted, h]

theorem arrayResult_congr (h : c'.conventions = c.conventions) (element call : String) :
    c'.arrayResult element call = c.arrayResult element call := by
  rw [arrayResult, arrayResult, h]

theorem arrayParameter_congr (h : c'.conventions = c.conventions) (t : CppType)
    (name declaration call : String) :
    c'.arrayParameter t name declaration call = c.arrayParameter t name declaration call := by
  simp only [arrayParameter, convertedName, h]

theorem shapeRule_congr (h : c'.conventions = c.conventions) (t : CppType) (name : String)
    (usage : Usage) (default : Attribute) :
    c'.shapeRule t name usage default = c.shapeRule t name usage default := by
  have hresult (s : Shape) : c'.resultRule t s = c.resultRule t s := by
    cases s <;> simp only [resultRule, rejectDenylisted_congr h, arrayResult_congr h]
  have hparameter (s : Shape) :
      c'.parameterRule t name default s = c.parameterRule t name default s := by
    cases s <;> simp only [parameterRule, rejectDenylisted_congr h, arrayParameter_congr h, h]
  simp only [shapeRule, hresult, hparameter, h]

/-- A type that is taken as it stands is no withheld class. What is converted by a wrapper is
converted in the same way under every catalog of the same conventions, whatever it records about the
element. -/
theorem convert_withholds (h : c.convert t name usage default = .ok r) :
    (r.glue? = none → ¬(usage = .result ∧ t.name = "void") → ¬c.IsWithheld t.name) ∧
      (r.glue? ≠ none → ∀ c' : Catalog, c'.conventions = c.conventions →
        c'.convert t name usage default = .ok r) := by
  rcases convert_eq_ok.1 h with hs | ⟨-, d, hd, rfl⟩
  · refine ⟨fun hg hv => ?_, fun _ c' hc => ?_⟩
    · rcases shapeRule_eq_some hs with ⟨hu, hn, -, -⟩ | ⟨hglued, -⟩
      · exact absurd ⟨hu, hn⟩ hv
      · exact absurd hg hglued.glue_ne_none
    · exact convert_eq_ok.2 (.inl ((shapeRule_congr hc t name usage default).trans hs))
  · exact ⟨fun _ _ => not_isWithheld_of_accepted (generalDeclaration_eq_ok.1 hd).2.1,
      fun hg => absurd rfl hg⟩

/-- Classes that are kept from scripts, one of which is called `void`. -/
def withheldClasses : Catalog := .build {} [
  { name := "Secret", isInternal := true },
  { name := "Hidden", isRefCounted := true, comment := "NO_BIND" },
  { name := "void", isInternal := true }] [] []

/-- A class that is not withheld as it stands, and a handle that is the same without a catalog. -/
theorem convert_withholds_handle :
    let c : Catalog := .build {} [{ name := "Node", isRefCounted := true }] [] []
    let node : CppType := { name := "Node", isPointer := true }
    let handle : CppType := .plain "SharedPtr<Secret>"
    let r : Conversion := {
      declaration := "Secret@+"
      nativeOverride? := "Secret*"
      glue? := "return result.Detach();" }
    c.convert node "node" .parameter = .ok { declaration := "Node@+" } ∧ ¬c.IsWithheld "Node" ∧
      c.convert handle "" .result = .ok r ∧ withheldClasses.convert handle "" .result = .ok r := by
  intro c node handle r
  have hn : c.convert node "node" .parameter = .ok { declaration := "Node@+" } :=
    Outcome.toOption_eq_some.1 (by decide)
  have hr : c.convert handle "" .result = .ok r := Outcome.toOption_eq_some.1 (by decide)
  refine ⟨hn, (convert_withholds hn).1 rfl fun h => ?_, hr, ?_⟩
  · cases h.1
  · exact (convert_withholds hr).2 (Option.some_ne_none _) withheldClasses rfl

/-- Withheld classes are exposed as elements, in both uses, and a result may be void where a class
of that name is withheld. The same classes are refused where they stand alone. -/
theorem convert_exposes_withheldClasses :
    (∀ x ∈ [(CppType.plain "SharedPtr<Secret>", "Secret@+"),
          (.plain "Vector<SharedPtr<Hidden>>", "Array<Hidden@>@"),
          (.plain "PODVector<Secret>", "Array<Secret>@"),
          (.plain "PODVector<Hidden*>", "Array<Hidden@>@"), (.plain "void", "void")],
        (withheldClasses.convert x.1 "" .result).toOption.map (·.declaration) = some x.2 ∧
          withheldClasses.IsWithheld (x.1.mentioned withheldClasses.conventions)) ∧
      (∀ x ∈ [("Vector<SharedPtr<Hidden>>", "Array<Hidden@>@+"),
          ("PODVector<Secret>", "Array<Secret>@+"), ("PODVector<Hidden*>", "Array<Hidden@>@")],
        let t : CppType := { name := x.1, isConst := true, isReference := true }
        (withheldClasses.convert t "items" .parameter).toOption.map (·.declaration) = some x.2 ∧
          withheldClasses.IsWithheld (t.mentioned withheldClasses.conventions)) ∧
      ∀ name ∈ ["Secret", "Hidden"],
        (withheldClasses.convert { name, isPointer := true } "" .result).isOk = false := by
  decide

end Catalog

end ScriptGlue

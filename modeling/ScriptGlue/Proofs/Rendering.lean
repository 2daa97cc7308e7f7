import ScriptGlue.Glue
import ScriptGlue.Proofs.Outcome

namespace ScriptGlue

theorem given?_of_ne_empty {s : String} (h : s ≠ "") : given? (some s) = some s := by
  rw [given?, Option.filter_some_pos]
  simpa using h

theorem given?_eq_some {s : Option String} {t : String} (h : given? s = some t) : s = some t :=
  (Option.filter_eq_some_iff.1 h).1

namespace Template

variable {scope : TemplateScope} {r : TemplateRef} {v : Json} {rest body yes no : Template}
  {a item separator s chosen : String} {xs : List Json} {parts : List String}

theorem render_done : done.render scope = .ok "" := rfl

theorem render_as {t : Template} {s' : String} (h : t.render scope = .ok s) (hs : s = s') :
    t.render scope = .ok s' := hs ▸ h

theorem render_text (h : rest.render scope = .ok s) :
    (text a rest).render scope = .ok (a ++ s) := by
  rw [render, h]
  rfl

theorem render_put (hv : lookup scope r = .ok v) (h : rest.render scope = .ok s) :
    (put r rest).render scope = .ok (v.shown ++ s) := by
  rw [render]
  exact Outcome.bind_eq_ok.2 ⟨v, hv, Outcome.bind_eq_ok.2 ⟨s, h, rfl⟩⟩

theorem listOf_array (hv : lookup scope r = .ok (.array xs)) : listOf scope r = .ok xs :=
  Outcome.bind_eq_ok.2 ⟨_, hv, rfl⟩

theorem render_joined (hv : lookup scope r = .ok (.array xs)) (h : rest.render scope = .ok s) :
    (joined r separator rest).render scope =
      .ok (separator.intercalate (xs.map Json.shown) ++ s) := by
  rw [render]
  exact Outcome.bind_eq_ok.2 ⟨xs, listOf_array hv, Outcome.bind_eq_ok.2 ⟨s, h, rfl⟩⟩

theorem render_each (hv : lookup scope r = .ok (.array xs))
    (hb : List.Forall₂ (fun x part => body.render ((item, x) :: scope) = .ok part) xs parts)
    (h : rest.render scope = .ok s) :
    (each item r body rest).render scope = .ok (String.join parts ++ s) := by
  rw [render]
  refine Outcome.bind_eq_ok.2 ⟨xs, listOf_array hv, ?_⟩
  exact Outcome.bind_eq_ok.2 ⟨parts, Outcome.mapM_eq_ok.2 hb, Outcome.bind_eq_ok.2 ⟨s, h, rfl⟩⟩

theorem render_choose (hv : lookup scope r = .ok v)
    (hc : (if v.isTruthy then yes else no).render scope = .ok chosen)
    (h : rest.render scope = .ok s) :
    (choose r yes no rest).render scope = .ok (chosen ++ s) := by
  rw [render]
  refine Outcome.bind_eq_ok.2 ⟨v, hv, ?_⟩
  cases ht : v.isTruthy with
  | true =>
    rw [ht, if_pos rfl] at hc
    exact Outcome.bind_eq_ok.2 ⟨chosen, hc, Outcome.bind_eq_ok.2 ⟨s, h, rfl⟩⟩
  | false =>
    rw [ht, if_neg Bool.false_ne_true] at hc
    exact Outcome.bind_eq_ok.2 ⟨chosen, hc, Outcome.bind_eq_ok.2 ⟨s, h, rfl⟩⟩

theorem render_when (hv : lookup scope r = .ok v) (hc : yes.render scope = .ok chosen)
    (h : rest.render scope = .ok s) :
    (choose r yes .done rest).render scope = .ok ((if v.isTruthy then chosen else "") ++ s) := by
  refine render_choose hv ?_ h
  split
  · exact hc
  · exact render_done

theorem render_each_map {α : Type} (ys : List α) (toJson : α → Json) {part : α → String}
    (hv : lookup scope r = .ok (.array (ys.map toJson)))
    (hb : ∀ y, body.render ((item, toJson y) :: scope) = .ok (part y))
    (h : rest.render scope = .ok s) :
    (each item r body rest).render scope = .ok (String.join (ys.map part) ++ s) := by
  refine render_each hv ?_ h
  rw [List.forall₂_map_left_iff, List.forall₂_map_right_iff]
  exact List.forall₂_same.2 fun y _ => hb y

/-- A line that stands only where something is given to put in it. -/
def optionalLine (before : String) (v : Json) : String :=
  if v.isTruthy then before ++ v.shown ++ "\n" else ""

/-- A text that is compiled only under a macro, if one is given. -/
def guarded (guard? : Option String) (text : String) : String :=
  optionalLine "#ifdef " (.ofOption guard?) ++ text ++
    if (Json.ofOption guard?).isTruthy then "#endif\n" else ""

theorem guarded_eq (guard? : Option String) (code : String) : guarded guard? code =
    match given? guard? with
    | none => code
    | some g => "#ifdef " ++ g ++ "\n" ++ code ++ "#endif\n" := by
  cases guard? with
  | none =>
    show "" ++ code ++ "" = code
    rw [String.empty_append, String.append_empty]
  | some g =>
    by_cases hg : g = ""
    · subst hg
      show "" ++ code ++ "" = code
      rw [String.empty_append, String.append_empty]
    · have htruthy : (Json.ofOption (some g)).isTruthy = true := by
        simpa [Json.ofOption] using hg
      rw [given?_of_ne_empty hg, guarded, optionalLine, htruthy, if_pos rfl,
        if_pos rfl]
      rfl

/-- A guarded text is compiled if its macro is defined or none is given. -/
def isCompiled (defined : String → Bool) (guard? : Option String) : Bool :=
  (given? guard?).all defined

theorem render_optionalLine (hv : lookup scope r = .ok v) (h : rest.render scope = .ok s) :
    (choose r (text a <| put r <| text "\n" done) done rest).render scope =
      .ok (optionalLine a v ++ s) := by
  have hyes := render_text (a := a) (render_put hv (render_text (a := "\n") render_done))
  rw [render_when hv hyes h, optionalLine, String.append_empty, String.append_assoc]

end Template

namespace WrapperParts

def ending (p : WrapperParts) : String :=
  if (Json.ofOption p.returnGlue?).isTruthy then
    "    " ++ (Json.ofOption p.returnGlue?).shown ++ "\n"
  else if p.returnsVoid then "" else "    return result;\n"

def definition (p : WrapperParts) : String :=
  "static " ++ p.returnType ++ " " ++ p.name ++ "(" ++ ", ".intercalate p.parameters ++
    ")\n\x7b\n" ++ String.join (p.parameterGlue.map fun line => "    " ++ line ++ "\n") ++
    "    " ++ p.resultBinding ++ p.callee ++ "(" ++ ", ".intercalate (p.arguments.map Json.shown) ++
    ");\n" ++ p.ending ++ "\x7d\n"

def text (p : WrapperParts) : String :=
  Template.guarded p.guard? (Template.optionalLine "// " p.location ++ p.definition)

end WrapperParts

/-- What stands in the registering function for one declaration. -/
def Registration.text (r : Registration) : String :=
  Template.guarded r.guard? (Template.optionalLine "    // " (.ofOption r.comment?) ++
    String.join (r.statements.map fun s => "    " ++ s.text ++ "\n")) ++ "\n"

/-- The generated source, made of the texts for its wrappers and registrations. -/
def Glue.sourceText (o : GlueOptions) (headers : List Attribute)
    (wrappers registrations : List String) : String :=
  let includeLine (header : Attribute) := "#include \"" ++ header.shown ++ "\"\n"
  "// This file is generated by the AngelScript binding generator. Do not edit.\n\n" ++
    String.join (o.includes.map includeLine) ++ String.join (headers.map includeLine) ++
    "\nnamespace " ++ o.namespaceName.shown ++ "\n\x7b\n\n" ++
    String.join (wrappers.map (· ++ "\n\n")) ++
    "void " ++ o.registerFunction.shown ++ "(asIScriptEngine* engine)\n\x7b\n" ++
    String.join registrations ++ "\x7d\n\n\x7d // namespace " ++ o.namespaceName.shown

namespace Template

theorem map_shown_string (ss : List String) : (ss.map Json.string).map Json.shown = ss := by
  rw [List.map_map]
  exact List.map_id ss

theorem render_ending {rest : Template} {s : String} {p : WrapperParts}
    (h : rest.render p.members = .ok s) :
    (choose (.named "return_glue") (text "    " <| put (.named "return_glue") <| text "\n" done)
      (choose (.named "returns_void") done (text "    return result;\n" done) done)
      rest).render p.members = .ok (p.ending ++ s) := by
  refine render_choose (v := .ofOption p.returnGlue?) rfl ?_ h
  rw [WrapperParts.ending]
  split
  · rw [render_text (render_put rfl (render_text render_done)), String.append_empty,
      String.append_assoc]
  · have hv : lookup p.members (.named "returns_void") = .ok (.bool p.returnsVoid) := rfl
    cases hr : p.returnsVoid with
    | true =>
      rw [hr] at hv
      exact render_as (render_choose hv render_done render_done) rfl
    | false =>
      rw [hr] at hv
      exact render_as (render_choose hv (render_text render_done) render_done) rfl

theorem render_wrapper (p : WrapperParts) : wrapper.render p.members = .ok p.text := by
  rw [wrapper]
  apply render_as
  case h =>
    apply render_optionalLine rfl
    apply render_optionalLine rfl
    apply render_text
    apply render_put rfl
    apply render_text
    apply render_put rfl
    apply render_text
    apply render_joined rfl
    apply render_text
    apply render_each_map p.parameterGlue .string rfl
    · intro line
      exact render_text <| render_put rfl <| render_text render_done
    apply render_text
    apply render_put rfl
    apply render_put rfl
    apply render_text
    apply render_joined rfl
    apply render_text
    apply render_ending
    apply render_text
    exact render_when rfl (render_text render_done) render_done
  case hs =>
    unfold WrapperParts.text WrapperParts.definition guarded
    simp only [String.append_assoc, String.append_empty, Json.shown_string, map_shown_string]

theorem render_registration (r : Registration) (scope : TemplateScope) :
    registration.render (("reg", r.toJson) :: scope) = .ok r.text := by
  rw [registration]
  apply render_as
  case h =>
    apply render_optionalLine rfl
    apply render_optionalLine rfl
    apply render_each_map r.statements (Json.string ∘ (·.text))
    · rw [← List.map_map]
      rfl
    · intro s
      exact render_text <| render_put rfl <| render_text render_done
    apply render_when rfl (render_text render_done)
    exact render_text render_done
  case hs =>
    rw [Registration.text, guarded]
    simp only [String.append_assoc, String.append_empty, Json.shown_string, Function.comp_apply]

theorem render_includeLine {item : String} {x : Json} {scope : TemplateScope} :
    (includeLine item).render ((item, x) :: scope) =
      .ok ("#include \"" ++ x.shown ++ "\"\n") := by
  have hv : lookup ((item, x) :: scope) (.named item) = .ok x := by
    rw [lookup, lookupName, List.lookup_cons_self]
    rfl
  have h := render_text (a := "#include \"") <| render_put hv <|
    render_text (a := "\"\n") render_done
  rw [includeLine, h, String.append_empty, String.append_assoc]

theorem render_bindings (o : GlueOptions) (headers : List Attribute) (bs : List Binding) :
    bindings.render (Glue.scope o headers bs) = .ok (Glue.sourceText o headers
      (bs.filterMap (·.wrapperSource?)) (bs.map (·.registration.text))) := by
  rw [bindings]
  apply render_as
  case h =>
    apply render_text
    apply render_each_map o.includes id
    · rw [List.map_id]
      rfl
    · intro x
      exact render_includeLine
    apply render_each_map headers id
    · rw [List.map_id]
      rfl
    · intro x
      exact render_includeLine
    apply render_text
    apply render_put rfl
    apply render_text
    apply render_each_map (bs.filterMap (·.wrapperSource?)) .string rfl
    · intro w
      exact render_put rfl <| render_text render_done
    apply render_text
    apply render_put rfl
    apply render_text
    apply render_each_map bs (fun b => b.registration.toJson) rfl
    · intro b
      exact render_registration b.registration _
    apply render_text
    exact render_put rfl render_done
  case hs =>
    unfold Glue.sourceText
    simp only [String.append_assoc, String.append_empty, Json.shown_string, id_eq]

theorem renderWith_eq {t : Template} (h : scope.any (·.1 == "self") = false) :
    t.renderWith scope = t.render scope := by
  rw [renderWith, h, if_neg Bool.false_ne_true]

end Template

namespace TemplateLibrary

theorem render_wrapper (p : WrapperParts) :
    packaged.render Template.wrapperName p.members = .ok p.text := by
  show (Template.wrapper.renderWith p.members).mapError Fault.template = _
  rw [Template.renderWith_eq rfl, Template.render_wrapper]
  rfl

theorem render_bindings (o : GlueOptions) (headers : List Attribute) (bs : List Binding) :
    packaged.render Template.bindingsName (Glue.scope o headers bs) = .ok (Glue.sourceText o headers
      (bs.filterMap (·.wrapperSource?)) (bs.map (·.registration.text))) := by
  show (Template.bindings.renderWith (Glue.scope o headers bs)).mapError Fault.template = _
  rw [Template.renderWith_eq rfl, Template.render_bindings]
  rfl

end TemplateLibrary

end ScriptGlue

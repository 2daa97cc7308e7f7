import Mathlib.Data.List.Basic
import ScriptGlue.Proofs.Separation
import ScriptGlue.Proofs.Shape

namespace ScriptGlue.Shape

variable {c : Conventions} {name o o' e e' k k' : String} {s s' : Shape}

def IsClosing (k : String) : Prop := k.toList.any Text.isWord = false

theorem toList_reverse_template :
    (o ++ "<" ++ e ++ k).toList.reverse =
      k.toList.reverse ++ (e.toList.reverse ++ '<' :: o.toList.reverse) := by
  simp

theorem IsElement.isWord_of_head_reverse (he : IsElement e) {xs : List Char} :
    ∀ a ∈ (e.toList.reverse ++ xs).head?, Text.isWord a = true := by
  intro a ha
  have hne : e.toList.reverse ≠ [] := by simpa using he.1
  rw [List.head?_append_of_ne_nil _ hne] at ha
  exact he.2 a (List.mem_reverse.1 (List.mem_of_mem_head? ha))

theorem IsElement.template_inj (he : IsElement e) (he' : IsElement e') (hk : IsClosing k)
    (hk' : IsClosing k') (h : o ++ "<" ++ e ++ k = o' ++ "<" ++ e' ++ k') :
    o = o' ∧ e = e' ∧ k = k' := by
  have hclosing {k : String} (hk : IsClosing k) :
      ∀ a ∈ k.toList.reverse, (!Text.isWord a) = true := by
    intro a ha
    have hnot := List.any_eq_false.1 hk a (List.mem_reverse.1 ha)
    rw [Bool.eq_false_iff.2 hnot, Bool.not_false]
  have helement {e : String} (he : IsElement e) {xs : List Char} :
      ∀ a ∈ (e.toList.reverse ++ xs).head?, (!Text.isWord a) = false := by
    intro a ha
    rw [he.isWord_of_head_reverse a ha, Bool.not_true]
  have hbracket (xs : List Char) : ∀ a ∈ ('<' :: xs).head?, Text.isWord a = false := by
    rintro a ⟨⟩
    decide
  have hrev := congrArg (fun name => name.toList.reverse) h
  simp only [toList_reverse_template] at hrev
  obtain ⟨hkk, hrest⟩ := Text.append_inj_of_head (hclosing hk) (hclosing hk') (helement he)
    (helement he') hrev
  obtain ⟨hee, hoo⟩ := Text.append_inj_of_head (fun a ha => he.2 a (List.mem_reverse.1 ha))
    (fun a ha => he'.2 a (List.mem_reverse.1 ha)) (hbracket _) (hbracket _) hrest
  simp only [List.reverse_inj, List.cons.injEq, true_and, String.toList_inj] at hkk hee hoo
  exact ⟨hoo, hee, hkk⟩

/-- A template shape by the text before the last opening bracket, the element and the text that
closes it. -/
def template? (c : Conventions) : Shape → Option (String × String × String)
  | .singleOwner e => some (c.singleOwner, e, ">")
  | .singleOwnerSequence e => some (c.handleSequence ++ "<" ++ c.singleOwner, e, ">>")
  | .pointerSequence e => some (c.valueSequence, e, "*>")
  | .valueSequence e => some (c.valueSequence, e, ">")
  | .void | .stringSequence | .context | .plain => none

theorem exists_template? (h : s.element?.isSome) : ∃ o e k, s.template? c = some (o, e, k) := by
  cases s with
  | singleOwner e | singleOwnerSequence e | pointerSequence e | valueSequence e =>
    exact ⟨_, _, _, rfl⟩
  | void | stringSequence | context | plain => cases h

theorem isClosing_of_template? (h : s.template? c = some (o, e, k)) : IsClosing k := by
  cases s with
  | singleOwner a | singleOwnerSequence a | pointerSequence a | valueSequence a =>
    cases h
    rfl
  | void | stringSequence | context | plain => cases h

theorem isWritten_iff_of_template? (h : s.template? c = some (o, e, k)) :
    s.IsWritten c name ↔ IsElement e ∧ name = o ++ "<" ++ e ++ k := by
  cases s with
  | singleOwner a | singleOwnerSequence a | pointerSequence a | valueSequence a =>
    cases h
    rfl
  | void | stringSequence | context | plain => cases h

theorem template?_inj (hne : c.singleOwner ≠ c.valueSequence)
    (h : s.template? c = some (o, e, k)) (h' : s'.template? c = some (o, e, k)) : s = s' := by
  have hends : ">" ≠ ">>" ∧ ">" ≠ "*>" ∧ ">>" ≠ "*>" := by decide
  cases s <;> cases s' <;> grind [template?]

theorem IsWritten.unique (hne : c.singleOwner ≠ c.valueSequence) (hs : s.element?.isSome)
    (hs' : s'.element?.isSome) (hw : s.IsWritten c name) (hw' : s'.IsWritten c name) :
    s = s' := by
  obtain ⟨o, e, k, ht⟩ := exists_template? (c := c) hs
  obtain ⟨o', e', k', ht'⟩ := exists_template? (c := c) hs'
  obtain ⟨he, rfl⟩ := (isWritten_iff_of_template? ht).1 hw
  obtain ⟨he', hname⟩ := (isWritten_iff_of_template? ht').1 hw'
  obtain ⟨rfl, rfl, rfl⟩ :=
    he.template_inj he' (isClosing_of_template? ht) (isClosing_of_template? ht') hname
  exact template?_inj hne ht ht'

theorem ofName_ne_plain (hs : s.element?.isSome) (hw : s.IsWritten c name) :
    ofName c name ≠ .plain := by
  intro hplain
  rw [ofName] at hplain
  split at hplain
  · cases hplain
  split at hplain
  · cases hplain
  split at hplain
  · cases hplain
  split at hplain
  · cases hplain
  rename_i howner
  split at hplain
  · cases hplain
  rename_i howners
  split at hplain
  · cases hplain
  rename_i hpointers
  split at hplain
  · cases hplain
  rename_i hvalues
  cases s with
  | singleOwner e => exact absurd (wordBetween?_eq_some.2 hw) (howner e)
  | singleOwnerSequence e => exact absurd (wordBetween?_eq_some.2 hw) (howners e)
  | pointerSequence e => exact absurd (wordBetween?_eq_some.2 hw) (hpointers e)
  | valueSequence e => exact absurd (wordBetween?_eq_some.2 hw) (hvalues e)
  | void | stringSequence | context | plain => cases hs

theorem ofName_template_or_plain (hvoid : name ≠ "void") (hstrings : name ∉ c.stringSequences)
    (hcontext : name ≠ c.contextType) :
    (ofName c name).element?.isSome ∨ ofName c name = .plain := by
  have hw := ofName_isWritten c name
  cases hs : ofName c name with
  | singleOwner a | singleOwnerSequence a | pointerSequence a | valueSequence a =>
    exact .inl rfl
  | plain => exact .inr rfl
  | void | stringSequence | context =>
    rw [hs] at hw
    contradiction

/-- The shape of a type is a template exactly where its name is written as that template. The
order in which the templates are tried plays no part: no two of them are written alike. -/
theorem classify_template_iff (t : CppType) (hne : c.singleOwner ≠ c.valueSequence)
    (hvoid : t.name ≠ "void") (hstrings : t.name ∉ c.stringSequences)
    (hcontext : t.name ≠ c.contextType) :
    (∀ s : Shape, s.element?.isSome → (classify c t = s ↔ s.IsWritten c t.name)) ∧
    (∀ s s' : Shape, s.element?.isSome → s'.element?.isSome →
      s.IsWritten c t.name → s'.IsWritten c t.name → s = s') ∧
    (classify c t = .plain ↔ ∀ s : Shape, s.element?.isSome → ¬ s.IsWritten c t.name) := by
  have hshape := ofName_template_or_plain hvoid hstrings hcontext
  have hwritten := ofName_isWritten c t.name
  refine ⟨fun s hs => ⟨?_, fun hw => ?_⟩, fun s s' hs hs' => IsWritten.unique hne hs hs', ?_, ?_⟩
  · rintro rfl
    exact hwritten
  · have htemplate := hshape.resolve_right (ofName_ne_plain hs hw)
    exact IsWritten.unique hne htemplate hs hwritten hw
  · intro hplain s hs hw
    exact ofName_ne_plain hs hw hplain
  · intro hnone
    exact hshape.resolve_left fun hs => hnone _ hs hwritten

theorem classify_template_of_metacharacters :
    classify { singleOwner := "Ptr+", handleSequence := "Seq.*" } (.plain "Seq.*<Ptr+<Node>>") =
      .singleOwnerSequence "Node" :=
  ((classify_template_iff _ (by decide) (by decide) (by decide) (by decide)).1 _ rfl).2
    ⟨⟨by decide, List.all_eq_true.1 rfl⟩, rfl⟩

end ScriptGlue.Shape

import Mathlib.Data.List.Basic
import ScriptGlue.Conversion

namespace ScriptGlue.Shape

/-- What can stand alone between the brackets of a container: a run of word characters that is not
empty. -/
def IsElement (e : String) : Prop := e ≠ "" ∧ ∀ a ∈ e.toList, Text.isWord a = true

theorem wordBetween?_eq_some {opening closing name e : String} :
    wordBetween? opening closing name = some e ↔
      IsElement e ∧ name = opening ++ e ++ closing := by
  rw [wordBetween?]
  simp only [Option.bind_eq_bind, Option.bind_eq_some_iff, List.isPrefixOf?_eq_some_iff_append_eq,
    List.isSuffixOf?_eq_some_iff_append_eq]
  constructor
  · rintro ⟨rest, hr, word, hw, h⟩
    split at h
    · rename_i hword
      cases h
      simp only [Bool.and_eq_true, Bool.not_eq_true', List.isEmpty_eq_false_iff,
        List.all_eq_true] at hword
      refine ⟨⟨?_, ?_⟩, ?_⟩
      · rw [Ne, ← String.toList_inj, String.toList_ofList]
        exact hword.1
      · rw [String.toList_ofList]
        exact hword.2
      · rw [← String.toList_inj, ← hr, ← hw]
        simp
    · cases h
  · rintro ⟨⟨hne, hw⟩, rfl⟩
    refine ⟨e.toList ++ closing.toList, by simp, e.toList, rfl, ?_⟩
    rw [if_pos, String.ofList_toList]
    simpa [List.all_eq_true] using ⟨hne, hw⟩

/-- How a name is written that has the shape. -/
def IsWritten (c : Conventions) (name : String) : Shape → Prop
  | .void => name = "void"
  | .stringSequence => name ∈ c.stringSequences
  | .context => name = c.contextType
  | .singleOwner e => IsElement e ∧ name = c.singleOwner ++ "<" ++ e ++ ">"
  | .singleOwnerSequence e =>
    IsElement e ∧ name = c.handleSequence ++ "<" ++ c.singleOwner ++ "<" ++ e ++ ">>"
  | .pointerSequence e => IsElement e ∧ name = c.valueSequence ++ "<" ++ e ++ "*>"
  | .valueSequence e => IsElement e ∧ name = c.valueSequence ++ "<" ++ e ++ ">"
  | .plain => True

theorem ofName_isWritten (c : Conventions) (name : String) :
    (ofName c name).IsWritten c name := by
  rw [ofName]
  split
  · rename_i h
    exact beq_iff_eq.1 h
  split
  · rename_i h
    exact List.contains_iff_mem.1 h
  split
  · rename_i h
    exact beq_iff_eq.1 h
  split
  · rename_i e h
    exact wordBetween?_eq_some.1 h
  split
  · rename_i e h
    exact wordBetween?_eq_some.1 h
  split
  · rename_i e h
    exact wordBetween?_eq_some.1 h
  split
  · rename_i e h
    exact wordBetween?_eq_some.1 h
  · trivial

theorem isElement_of_element? {c : Conventions} {name e : String}
    (h : (ofName c name).element? = some e) : IsElement e := by
  have hw := ofName_isWritten c name
  cases hs : ofName c name with
  | singleOwner a | singleOwnerSequence a | pointerSequence a | valueSequence a =>
    rw [hs] at h hw
    cases h
    exact hw.1
  | void | stringSequence | context | plain =>
    rw [hs] at h
    cases h

end ScriptGlue.Shape

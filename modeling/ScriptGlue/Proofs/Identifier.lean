import Mathlib.Data.List.Basic
import ScriptGlue.Text.Word

namespace ScriptGlue.Text

variable {s t : List Char} {a c : Char}

theorem continuesIdentifier_of_begins (h : beginsIdentifier c = true) :
    continuesIdentifier c = true := by
  rw [beginsIdentifier] at h
  rw [continuesIdentifier]
  split
  · rename_i hc
    rw [if_pos hc] at h
    simp only [Char.isAlphanum, Bool.or_eq_true] at h ⊢
    exact h.imp_left .inl
  · rename_i hc
    rw [if_neg hc, Bool.or_eq_true] at h
    rcases h with h | h
    · have hcodes : ∀ n ∈ letterLike, continuesIdentifier (Char.ofNat n) = true := by decide +kernel
      have hletter := hcodes c.toNat (List.contains_iff_mem.1 h)
      rwa [Char.ofNat_toNat, continuesIdentifier, if_neg hc] at hletter
    · have hunused : unusedLetters ⊆ lateLetters := by decide
      have hused : lateLetters.contains c.toNat = false →
          unusedLetters.contains c.toNat = false := by
        rw [← Bool.not_eq_true, ← Bool.not_eq_true, List.contains_iff_mem, List.contains_iff_mem]
        exact mt (@hunused _)
      rw [Bool.or_eq_true]
      refine .inr ?_
      cases hcategory : category c <;>
        simp_all only [Bool.not_eq_true', Bool.false_eq_true, Bool.not_false]

theorem isIdentifier_iff : isIdentifier s = true ↔
    (∃ c, s.head? = some c ∧ beginsIdentifier c = true) ∧
      ∀ c ∈ s, continuesIdentifier c = true := by
  cases s with
  | nil => simp [isIdentifier]
  | cons c s =>
    rw [isIdentifier, Bool.and_eq_true, List.all_eq_true, List.head?_cons, List.forall_mem_cons]
    constructor
    · rintro ⟨hc, hs⟩
      exact ⟨⟨c, rfl, hc⟩, continuesIdentifier_of_begins hc, hs⟩
    · rintro ⟨⟨d, hd, hc⟩, -, hs⟩
      cases hd
      exact ⟨hc, hs⟩

theorem isIdentifier_append (hs : isIdentifier s = true)
    (ht : ∀ c ∈ t, continuesIdentifier c = true) : isIdentifier (s ++ t) = true := by
  obtain ⟨⟨c, hc, hbegins⟩, hs⟩ := isIdentifier_iff.1 hs
  refine isIdentifier_iff.2 ⟨⟨c, ?_, hbegins⟩, ?_⟩
  · rw [List.head?_append, hc]
    rfl
  · intro a ha
    exact (List.mem_append.1 ha).elim (hs a) (ht a)

theorem isIdentifier_join {xs : List String} (hs : isIdentifier s = true)
    (hxs : ∀ x ∈ xs, ∀ c ∈ x.toList, continuesIdentifier c = true) :
    isIdentifier (s ++ (String.join xs).toList) = true := by
  apply isIdentifier_append hs
  intro c hc
  rw [String.toList_join, List.mem_flatMap] at hc
  obtain ⟨x, hx, hc⟩ := hc
  exact hxs x hx c hc

def IsQualified (s : List Char) : Prop := ∀ c ∈ s, continuesIdentifier c = true ∨ c = ':'

instance (s : List Char) : Decidable (IsQualified s) := List.decidableBAll _ s

theorem IsQualified.append (hs : IsQualified s) (ht : IsQualified t) : IsQualified (s ++ t) := by
  intro c hc
  exact (List.mem_append.1 hc).elim (hs c) (ht c)

theorem IsQualified.not_mem (hs : IsQualified s) (ha : continuesIdentifier a = false)
    (hcolon : a ≠ ':') : a ∉ s := by
  intro hm
  rcases hs a hm with h | h
  · rw [ha] at h
    cases h
  · exact hcolon h

end ScriptGlue.Text

import Mathlib.Data.List.SplitBy
import ScriptGlue.Proofs.Separation

namespace ScriptGlue.Text

variable {p : Char → Bool} {s t w : List Char} {c : Char}

/-- The maximal runs of such characters, with every other character alone between them. -/
def runs (p : Char → Bool) (s : List Char) : List (List Char) := s.splitBy fun a b => p a && p b

theorem flatten_runs (p : Char → Bool) (s : List Char) : (runs p s).flatten = s :=
  List.flatten_splitBy _ s

theorem runs_append (h : ∀ a ∈ s.getLast?, p a = true → ∀ b ∈ t.head?, p b = false) :
    runs p (s ++ t) = runs p s ++ runs p t := by
  apply List.splitBy_append
  intro a ha b hb
  cases hp : p a with
  | false => rfl
  | true => exact h a ha hp b hb

theorem runs_cons (hc : p c = false) (s : List Char) : runs p (c :: s) = [c] :: runs p s := by
  have hcut : runs p ([c] ++ s) = runs p [c] ++ runs p s := by
    refine runs_append fun a ha hp => ?_
    obtain rfl : c = a := by simpa using ha
    rw [hc] at hp
    cases hp
  exact hcut

theorem runs_run (hne : w ≠ []) (hw : ∀ a ∈ w, p a = true) : runs p w = [w] := by
  apply List.splitBy_of_isChain hne
  exact (List.pairwise_of_forall_mem_list fun a ha b hb => by simp [hw a ha, hw b hb]).isChain

theorem runs_run_append (hne : w ≠ []) (hw : ∀ a ∈ w, p a = true)
    (hs : ∀ a ∈ s.head?, p a = false) : runs p (w ++ s) = w :: runs p s := by
  rw [runs_append fun _ _ _ => hs, runs_run hne hw]
  rfl

theorem runs_induction {P : List Char → Prop} (p : Char → Bool) (nil : P [])
    (outside : ∀ c s, p c = false → P s → P (c :: s))
    (run : ∀ w s, w ≠ [] → (∀ a ∈ w, p a = true) → (∀ a ∈ s.head?, p a = false) → P s → P (w ++ s))
    (s : List Char) : P s := by
  suffices ∀ n (s : List Char), s.length ≤ n → P s from this s.length s (Nat.le_refl _)
  intro n
  induction n with
  | zero =>
    intro s hs
    rw [List.length_eq_zero_iff.1 (Nat.le_zero.1 hs)]
    exact nil
  | succ n ih =>
    intro s hs
    cases s with
    | nil => exact nil
    | cons c s =>
      have hlength : s.length ≤ n := Nat.le_of_succ_le_succ hs
      cases hc : p c with
      | false => exact outside c s hc (ih s hlength)
      | true =>
        obtain ⟨w, t, hcut, hle, hw, ht⟩ := exists_run hc s
        rw [hcut]
        exact run _ t (List.cons_ne_nil c w) hw ht (ih t (hle.trans hlength))

end ScriptGlue.Text

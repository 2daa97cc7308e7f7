import Mathlib.Data.List.TakeWhile

namespace ScriptGlue.Text

variable {p : Char → Bool} {s t u v w : List Char} {a : Char}

section Runs

theorem not_of_mem_head?_dropWhile (h : a ∈ (s.dropWhile p).head?) : p a = false := by
  have hnot := List.head?_dropWhile_not p s
  rw [Option.mem_def.1 h] at hnot
  simpa using hnot

theorem exists_run (ha : p a = true) (s : List Char) :
    ∃ w t, a :: s = a :: w ++ t ∧ t.length ≤ s.length ∧ (∀ c ∈ a :: w, p c = true) ∧
      ∀ c ∈ t.head?, p c = false := by
  refine ⟨s.takeWhile p, s.dropWhile p, ?_, (List.dropWhile_suffix p).length_le, ?_,
    fun c hc => not_of_mem_head?_dropWhile hc⟩
  · rw [List.cons_append, List.takeWhile_append_dropWhile]
  · intro c hc
    rcases List.mem_cons.1 hc with rfl | hc
    · exact ha
    · exact List.mem_takeWhile_imp hc

theorem append_inj_of_head {α : Type} {p : α → Bool} {xs xs' ys ys' : List α}
    (hx : ∀ a ∈ xs, p a = true) (hx' : ∀ a ∈ xs', p a = true)
    (hy : ∀ a ∈ ys.head?, p a = false) (hy' : ∀ a ∈ ys'.head?, p a = false)
    (h : xs ++ ys = xs' ++ ys') : xs = xs' ∧ ys = ys' := by
  have htake {us vs : List α} (hu : ∀ a ∈ us, p a = true) (hv : ∀ a ∈ vs.head?, p a = false) :
      (us ++ vs).takeWhile p = us := by
    rw [List.takeWhile_append_of_pos hu]
    cases vs with
    | nil => simp
    | cons a vs => simp [hv a rfl]
  have hxs : xs = xs' := by
    rw [← htake hx hy, h, htake hx' hy']
  subst hxs
  exact ⟨rfl, List.append_cancel_left h⟩

end Runs

section Separators

theorem append_cons_inj (hs : a ∉ s) (ht : a ∉ t) (h : s ++ a :: u = t ++ a :: v) :
    s = t ∧ u = v := by
  have hne {r : List Char} (hr : a ∉ r) : ∀ c ∈ r, (c != a) = true := by
    intro c hc
    rw [bne_iff_ne]
    rintro rfl
    exact hr hc
  have hhead (r : List Char) : ∀ c ∈ (a :: r).head?, (c != a) = false := by
    rintro c ⟨⟩
    exact bne_self_eq_false a
  obtain ⟨hst, huv⟩ := append_inj_of_head (hne hs) (hne ht) (hhead u) (hhead v) h
  exact ⟨hst, (List.cons.inj huv).2⟩

theorem append_cons_inj_last (hu : a ∉ u) (hv : a ∉ v) (h : s ++ a :: u = t ++ a :: v) :
    s = t ∧ u = v := by
  have hreverse := congrArg List.reverse h
  rw [List.reverse_append, List.reverse_append, List.reverse_cons, List.reverse_cons,
    List.append_assoc, List.append_assoc] at hreverse
  obtain ⟨huv, hst⟩ := append_cons_inj (by rwa [List.mem_reverse]) (by rwa [List.mem_reverse])
    hreverse
  exact ⟨List.reverse_inj.1 hst, List.reverse_inj.1 huv⟩

theorem splitOn_induction {P : List Char → Prop} (sep : Char) (whole : ∀ s, sep ∉ s → P s)
    (cut : ∀ w s, sep ∉ w → P s → P (w ++ sep :: s)) (s : List Char) : P s := by
  induction hs : s.splitOn sep generalizing s with
  | nil => exact absurd hs (List.splitOn_ne_nil sep s)
  | cons v vs ih =>
    by_cases hsep : sep ∈ s
    · obtain ⟨w, s, rfl, hw⟩ := List.eq_append_cons_of_mem hsep
      rw [List.splitOn_append_cons_self_of_not_mem hw] at hs
      exact cut w s hw (ih s (List.cons.inj hs).2)
    · exact whole s hsep

theorem of_mem_splitOn {sep : Char} (hw : w ∈ s.splitOn sep) : w <:+: s ∧ sep ∉ w := by
  induction s using splitOn_induction sep with
  | whole s hs =>
    rw [List.splitOn_eq_singleton hs, List.mem_singleton] at hw
    rw [hw]
    exact ⟨List.infix_rfl, hs⟩
  | cut v s hv ih =>
    rw [List.splitOn_append_cons_self_of_not_mem hv] at hw
    rcases List.mem_cons.1 hw with rfl | hw
    · exact ⟨(List.prefix_append _ _).isInfix, hv⟩
    · obtain ⟨hpart, hnot⟩ := ih hw
      exact ⟨hpart.trans ((List.suffix_cons _ _).isInfix.trans
        (List.suffix_append _ _).isInfix), hnot⟩

theorem intercalate_append {sep : List Char} {xs : List (List Char)} (h : xs ≠ []) :
    sep.intercalate xs ++ sep = xs.flatMap (· ++ sep) := by
  induction xs with
  | nil => exact absurd rfl h
  | cons x xs ih =>
    cases xs with
    | nil => simp
    | cons y ys =>
      rw [List.intercalate_cons_cons, List.append_assoc, ih (List.cons_ne_nil y ys)]
      rfl

theorem intercalate_eq_nil {sep : List Char} {xs : List (List Char)} (hx : ∀ x ∈ xs, x ≠ []) :
    sep.intercalate xs = [] ↔ xs = [] := by
  constructor
  · intro h
    cases xs with
    | nil => rfl
    | cons x xs =>
      rw [List.forall_mem_cons] at hx
      cases xs with
      | nil => exact absurd (by simpa using h) hx.1
      | cons y ys =>
        rw [List.intercalate_cons_cons, List.append_eq_nil_iff, List.append_eq_nil_iff] at h
        exact absurd h.1.1 hx.1
  · rintro rfl
    rfl

theorem not_mem_intercalate {sep : List Char} {xs : List (List Char)} (hsep : a ∉ sep)
    (hx : ∀ x ∈ xs, a ∉ x) : a ∉ sep.intercalate xs := by
  by_cases hne : xs = []
  · rw [hne]
    exact List.not_mem_nil
  · intro hm
    have hjoined := List.mem_append_left sep hm
    rw [intercalate_append hne, List.mem_flatMap] at hjoined
    obtain ⟨x, hxs, hm⟩ := hjoined
    exact (List.mem_append.1 hm).elim (hx x hxs) hsep

end Separators

end ScriptGlue.Text

import Mathlib.Data.List.Induction
import Mathlib.Data.List.Perm.Basic
import ScriptGlue.Table

namespace ScriptGlue.Table

variable {κ : Type u} {α : Type v} {β : Type w} [BEq κ]

theorem groupBy_concat (key : α → κ) (xs : List α) (x : α) :
    groupBy key (xs ++ [x]) =
      (groupBy key xs).put (key x) (((groupBy key xs).get? (key x)).getD [] ++ [x]) := by
  simp only [groupBy, List.foldl_append, List.foldl_cons, List.foldl_nil]

theorem eraseDups_sublist : ∀ ks : List κ, ks.eraseDups.Sublist ks
  | [] => .slnil
  | k :: ks => by
    rw [List.eraseDups_cons]
    exact ((eraseDups_sublist _).trans List.filter_sublist).cons_cons k
termination_by ks => ks.length
decreasing_by exact Nat.lt_succ_of_le (List.length_filter_le _ _)

variable [LawfulBEq κ]

theorem eraseDups_concat (ks : List κ) (k : κ) :
    (ks ++ [k]).eraseDups = if k ∈ ks then ks.eraseDups else ks.eraseDups ++ [k] := by
  rw [List.eraseDups_append]
  by_cases h : k ∈ ks <;> simp [List.removeAll, h, List.eraseDups_cons]

theorem nodup_eraseDups (ks : List κ) : ks.eraseDups.Nodup := by
  induction ks using List.reverseRecOn with
  | nil => exact List.nodup_nil
  | append_singleton ks k ih =>
    rw [eraseDups_concat]
    split
    · exact ih
    · rename_i h
      rw [List.nodup_append]
      refine ⟨ih, by simp, ?_⟩
      intro a ha b hb he
      rw [he, List.mem_singleton.1 hb] at ha
      exact h (List.mem_eraseDups.1 ha)

variable [DecidableEq κ]

theorem get?_tabulate (ks : List κ) (f : κ → β) (k : κ) :
    (⟨ks.map fun k => (k, f k)⟩ : Table κ β).get? k = if k ∈ ks then some (f k) else none := by
  rw [get?]
  induction ks with
  | nil => rfl
  | cons q ks ih =>
    rw [List.map_cons, lookup_entry, ih]
    by_cases h : k = q <;> simp [h]

theorem groupBy_eq (key : α → κ) (xs : List α) :
    groupBy key xs =
      ⟨(xs.map key).eraseDups.map fun k => (k, xs.filter (key · == k))⟩ := by
  induction xs using List.reverseRecOn with
  | nil => rfl
  | append_singleton xs x ih =>
    have hgroup (k : κ) : (xs ++ [x]).filter (key · == k) =
        if k = key x then xs.filter (key · == k) ++ [x] else xs.filter (key · == k) := by
      rw [List.filter_append]
      by_cases h : k = key x
      · simp [h]
      · simp [h, Ne.symm h]
    rw [groupBy_concat, ih, get?_tabulate, List.map_append, List.map_singleton, eraseDups_concat,
      put, contains, get?_tabulate]
    simp only [List.mem_eraseDups, hgroup]
    by_cases h : key x ∈ xs.map key
    · simp only [h, ↓reduceIte, Option.isSome_some, Option.getD_some, List.map_map, mk.injEq]
      refine List.map_congr_left fun k _ => ?_
      by_cases hk : k = key x <;> simp [hk]
    · have hnone : xs.filter (key · == key x) = [] := by
        rw [List.filter_eq_nil_iff]
        intro y hy he
        exact h (beq_iff_eq.1 he ▸ List.mem_map_of_mem hy)
      simp only [h, ↓reduceIte, Option.isSome_none, Bool.false_eq_true, Option.getD_none,
        List.nil_append, List.map_append, List.map_cons, List.map_nil, hnone, mk.injEq,
        List.append_cancel_right_eq]
      refine List.map_congr_left fun k hk => ?_
      rw [if_neg]
      rintro rfl
      exact h (List.mem_eraseDups.1 hk)

theorem flatMap_filter_perm {key : α → κ} {ks : List κ} (hks : ks.Nodup) {xs : List α}
    (h : ∀ x ∈ xs, key x ∈ ks) : (ks.flatMap fun k => xs.filter (key · == k)).Perm xs := by
  induction ks generalizing xs with
  | nil =>
    cases xs with
    | nil => exact .refl _
    | cons x xs => cases h x List.mem_cons_self
  | cons k ks ih =>
    obtain ⟨hk, hks⟩ := List.nodup_cons.1 hks
    have hrest : (ks.flatMap fun q => xs.filter (key · == q)) =
        ks.flatMap fun q => (xs.filter (!key · == k)).filter (key · == q) := by
      refine List.flatMap_congr fun q hq => ?_
      rw [List.filter_filter]
      refine List.filter_congr fun x _ => ?_
      by_cases hx : key x = q
      · have hne : q ≠ k := fun he => hk (he ▸ hq)
        simp [hx, hne]
      · simp [hx]
    rw [List.flatMap_cons, hrest]
    refine ((ih hks ?_).append_left _).trans (List.filter_append_perm _ xs)
    intro x hx
    obtain ⟨hx, hne⟩ := List.mem_filter.1 hx
    rcases List.mem_cons.1 (h x hx) with he | hm
    · simp [he] at hne
    · exact hm

theorem groupBy_perm (key : α → κ) (xs : List α) :
    ((groupBy key xs).entries.flatMap (·.2)).Perm xs := by
  rw [groupBy_eq, List.flatMap_map]
  refine flatMap_filter_perm (nodup_eraseDups _) fun x hx => ?_
  exact List.mem_eraseDups.2 (List.mem_map_of_mem hx)

theorem group_eq_filter {key : α → κ} {xs : List α} {g : κ × List α}
    (h : g ∈ (groupBy key xs).entries) : g.2 = xs.filter (key · == g.1) := by
  rw [groupBy_eq] at h
  obtain ⟨k, -, rfl⟩ := List.mem_map.1 h
  rfl

theorem flatMap_filter (p : α → Bool) (f : α → List β) (xs : List α) :
    (xs.filter p).flatMap f = xs.flatMap fun x => if p x then f x else [] := by
  induction xs with
  | nil => rfl
  | cons x xs ih => cases hp : p x <;> simp [hp, ih]

end ScriptGlue.Table

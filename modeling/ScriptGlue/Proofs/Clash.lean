import ScriptGlue.Proofs.Grouping
import ScriptGlue.Proofs.Wrapper

namespace ScriptGlue

def FunctionDecl.differ {α : Type} (function : α → FunctionDecl) : List α → Bool
  | [] => false
  | x :: rest => rest.any fun y => (function y).signature != (function x).signature

namespace Inputs

variable {i : Inputs}

/-- The functions that get a wrapper, each with its position among those that convert. -/
def wrapped (i : Inputs) : List (Wrapper × Nat) := i.converted.filter (·.1.isNeeded)

def rivals (i : Inputs) (name : String) : List (Wrapper × Nat) :=
  i.wrapped.filter (·.1.function.wrapperName == name)

def clash? (i : Inputs) (x : Wrapper × Nat) : Option NameClash :=
  match i.rivals x.1.function.wrapperName with
  | [] => none
  | kept :: dropped =>
    if x.1.isNeeded && kept.2 < x.2 && FunctionDecl.differ (·.1.function) (kept :: dropped) then
      some ⟨x.2, x.1.function.wrapperName, x.1.function.signature, kept.1.function.signature⟩
    else none

theorem pairwise_zipIdx {α : Type} (xs : List α) (k : Nat) :
    (xs.zipIdx k).Pairwise fun a b => a.2 < b.2 := by
  induction xs generalizing k with
  | nil => exact .nil
  | cons x xs ih =>
    rw [List.zipIdx_cons, List.pairwise_cons]
    exact ⟨fun y hy => List.le_snd_of_mem_zipIdx hy, ih (k + 1)⟩

theorem pairwise_rivals (i : Inputs) (name : String) :
    (i.rivals name).Pairwise fun a b => a.2 < b.2 :=
  ((pairwise_zipIdx _ _).filter _).filter _

theorem lt_of_rivals_eq {name : String} {kept : Wrapper × Nat} {dropped : List (Wrapper × Nat)}
    (hr : i.rivals name = kept :: dropped) : ∀ x ∈ dropped, kept.2 < x.2 := by
  have hp := i.pairwise_rivals name
  rw [hr] at hp
  exact (List.pairwise_cons.1 hp).1

def groupClashes (g : String × List (Wrapper × Nat)) : List NameClash :=
  match g.2 with
  | [] => []
  | kept :: dropped => dropped.map fun x =>
    ⟨x.2, g.1, x.1.function.signature, kept.1.function.signature⟩

theorem clashes_eq (i : Inputs) : i.clashes =
    ((Table.groupBy (·.1.function.wrapperName) i.wrapped).entries.filter
      fun g => FunctionDecl.differ (·.1.function) g.2).flatMap groupClashes := by
  rfl

theorem mem_rivals {name : String} {x : Wrapper × Nat} : x ∈ i.rivals name ↔
    x ∈ i.converted ∧ x.1.isNeeded = true ∧ x.1.function.wrapperName = name := by
  simp only [rivals, wrapped, List.mem_filter, beq_iff_eq, and_assoc]

theorem clash?_of_mem_rivals {name : String} {x kept : Wrapper × Nat}
    {dropped : List (Wrapper × Nat)} (hx : x ∈ i.rivals name)
    (hr : i.rivals name = kept :: dropped) :
    i.clash? x =
      if kept.2 < x.2 ∧ FunctionDecl.differ (·.1.function) (i.rivals name) = true then
        some ⟨x.2, name, x.1.function.signature, kept.1.function.signature⟩
      else none := by
  obtain ⟨-, hn, rfl⟩ := mem_rivals.1 hx
  rw [clash?, hr]
  simp only [hn, Bool.true_and, Bool.and_eq_true, decide_eq_true_eq]

theorem clash?_eq_some {x : Wrapper × Nat} {k : NameClash} (h : i.clash? x = some k) :
    k.position = x.2 ∧ k.dropped = x.1.function.signature := by
  rw [clash?] at h
  split at h
  · cases h
  · rw [Option.ite_none_right_eq_some] at h
    rw [← Option.some.inj h.2]
    exact ⟨rfl, rfl⟩

theorem clash?_of_direct {x : Wrapper × Nat} (hn : x.1.isNeeded = false) : i.clash? x = none := by
  rw [clash?]
  split
  · rfl
  · simp only [hn, Bool.false_and, Bool.false_eq_true, ↓reduceIte]

/-- In a group with several signatures the first function is kept and each of the others
dropped. -/
theorem filterMap_clash?_rivals (i : Inputs) (name : String) :
    (i.rivals name).filterMap i.clash? =
      if FunctionDecl.differ (·.1.function) (i.rivals name) then
        groupClashes (name, i.rivals name)
      else [] := by
  cases hr : i.rivals name with
  | nil => rfl
  | cons kept dropped =>
    have hc : ∀ x ∈ kept :: dropped, i.clash? x = _ :=
      fun x hx => clash?_of_mem_rivals (hr ▸ hx) hr
    rw [← hr] at hc ⊢
    split
    · rename_i hd
      have hkept : i.clash? kept = none := by
        rw [hc kept (hr ▸ List.mem_cons_self), if_neg (by simp)]
      rw [groupClashes, hr]
      simp only
      rw [List.filterMap_cons_none hkept, ← List.filterMap_eq_map]
      refine List.filterMap_congr fun x hx => ?_
      rw [hc x (hr ▸ List.mem_cons_of_mem kept hx), if_pos ⟨lt_of_rivals_eq hr x hx, hd⟩]
      rfl
    · rename_i hd
      rw [List.filterMap_eq_nil_iff]
      intro x hx
      rw [hc x hx, if_neg fun h => hd h.2]

theorem clashes_perm (i : Inputs) : i.clashes.Perm (i.converted.filterMap i.clash?) := by
  have hgroups : i.clashes =
      ((Table.groupBy (·.1.function.wrapperName) i.wrapped).entries.flatMap (·.2)).filterMap
        i.clash? := by
    rw [clashes_eq, Table.flatMap_filter, List.filterMap_flatMap]
    refine List.flatMap_congr fun g hg => ?_
    have he : g = (g.1, i.rivals g.1) := Prod.ext rfl (Table.group_eq_filter hg)
    rw [he]
    exact (i.filterMap_clash?_rivals g.1).symm
  have hwrapped : i.wrapped.filterMap i.clash? = i.converted.filterMap i.clash? := by
    rw [wrapped, List.filterMap_filter]
    refine List.filterMap_congr fun x _ => ?_
    cases hn : x.1.isNeeded with
    | true => rfl
    | false => exact (clash?_of_direct hn).symm
  rw [hgroups, ← hwrapped]
  exact (Table.groupBy_perm _ _).filterMap _

theorem eq_of_position {x y : Wrapper × Nat} (hx : x ∈ i.converted) (hy : y ∈ i.converted)
    (h : x.2 = y.2) : x = y := by
  have hgx := List.mem_zipIdx_iff_getElem?.1 hx
  have hgy := List.mem_zipIdx_iff_getElem?.1 hy
  rw [h, hgy] at hgx
  exact Prod.ext (Option.some.inj hgx).symm h

theorem selected_eq (i : Inputs) :
    i.selected = (i.converted.filter fun x => (i.clash? x).isNone).map (·.1) := by
  unfold selected
  simp only
  congr 1
  refine List.filter_congr fun x hx => ?_
  rw [Bool.eq_iff_iff, Bool.not_eq_true', ← Bool.not_eq_true, List.contains_iff_mem,
    List.mem_map, Option.isNone_iff_eq_none, Option.eq_none_iff_forall_ne_some]
  simp only [i.clashes_perm.mem_iff, List.mem_filterMap]
  constructor
  · intro h k hk
    exact h ⟨k, ⟨x, hx, hk⟩, (clash?_eq_some hk).1⟩
  · rintro h ⟨k, ⟨y, hy, hk⟩, hp⟩
    rw [(clash?_eq_some hk).1] at hp
    refine h k ?_
    rw [← eq_of_position hy hx hp, hk]

end Inputs

end ScriptGlue

import ScriptGlue.Proofs.Namesake

namespace ScriptGlue.Inputs

variable {i : Inputs} {name : String}

def wrapperNames (i : Inputs) : List String := (i.selected.filter (·.isNeeded)).map (·.name)

def keepers (i : Inputs) (name : String) : List (Wrapper × Nat) :=
  (i.rivals name).filter fun x => (i.clash? x).isNone

theorem keepers_of_isContested (hd : i.IsContested name) : (i.keepers name).length ≤ 1 := by
  rw [keepers]
  cases hr : i.rivals name with
  | nil => exact Nat.zero_le 1
  | cons kept dropped =>
    have hdropped : dropped.filter (fun x => (i.clash? x).isNone) = [] := by
      rw [List.filter_eq_nil_iff]
      intro x hx
      have hm : x ∈ i.rivals name := hr ▸ List.mem_cons_of_mem kept hx
      rw [clash?_of_mem_rivals hm hr, if_pos ⟨lt_of_rivals_eq hr x hx, (i.differ_rivals name).2 hd⟩]
      exact Bool.false_ne_true
    rw [List.filter_cons, hdropped]
    split
    · exact Nat.le_refl 1
    · exact Nat.zero_le 1

theorem keepers_of_not_isContested (hd : ¬i.IsContested name) : i.keepers name = i.rivals name := by
  rw [keepers]
  rw [List.filter_eq_self]
  intro x hx
  cases hr : i.rivals name with
  | nil =>
    rw [hr] at hx
    cases hx
  | cons kept dropped =>
    rw [clash?_of_mem_rivals hx hr, if_neg fun h => hd ((i.differ_rivals name).1 h.2)]
    rfl

theorem name_of_mem_converted {x : Wrapper × Nat} (hx : x ∈ i.converted) :
    x.1.name = x.1.function.wrapperName := by
  obtain ⟨f, -, hf⟩ := exists_build_of_mem_converted hx
  rw [Wrapper.name_of_build hf, Wrapper.function_of_build hf]

theorem count_wrapperNames (i : Inputs) (name : String) :
    i.wrapperNames.count name = (i.keepers name).length := by
  rw [wrapperNames, keepers, rivals, wrapped]
  rw [List.count_eq_countP, List.countP_map, List.countP_filter, selected_eq, List.countP_map,
    List.countP_filter, ← List.countP_eq_length_filter, List.countP_filter, List.countP_filter]
  refine List.countP_congr fun x hx => ?_
  simp only [Function.comp_apply, name_of_mem_converted hx, Bool.and_eq_true, beq_iff_eq]
  constructor
  · rintro ⟨⟨he, hn⟩, hc⟩
    exact ⟨⟨hc, he⟩, hn⟩
  · rintro ⟨⟨hc, he⟩, hn⟩
    exact ⟨⟨he, hn⟩, hc⟩

/-- The names are distinct exactly if the functions that would share a name always include two of
different signatures. -/
theorem nodup_wrapperNames (i : Inputs) : i.wrapperNames.Nodup ↔
    i.functions.Pairwise fun f g => f.isWrapped i.catalog = true → g.isWrapped i.catalog = true →
      f.wrapperName = g.wrapperName → i.IsContested f.wrapperName := by
  have hcount (name : String) : i.wrapperNames.count name ≤ 1 ↔
      i.IsContested name ∨ (i.catalog.namesakes name i.functions).length ≤ 1 := by
    rw [count_wrapperNames]
    by_cases hd : i.IsContested name
    · simp only [hd, true_or, iff_true]
      exact keepers_of_isContested hd
    · rw [keepers_of_not_isContested hd, rivals_eq, ← Catalog.map_function_rivals name 0,
        List.length_map]
      simp only [hd, false_or]
  rw [List.nodup_iff_count]
  simp only [hcount]
  rw [List.pairwise_iff_forall_sublist]
  constructor
  · intro h f g hs hf hg hn
    refine (h f.wrapperName).resolve_right fun hl => ?_
    have hsub : [f, g].Sublist (i.catalog.namesakes f.wrapperName i.functions) := by
      have hfilter := hs.filter fun x => x.isWrapped i.catalog && x.wrapperName == f.wrapperName
      rw [Catalog.namesakes]
      simpa [hf, hg, hn] using hfilter
    exact absurd (Nat.le_trans hsub.length_le hl) (Nat.not_succ_le_self 1)
  · intro h name
    cases hn : i.catalog.namesakes name i.functions with
    | nil => exact .inr (Nat.zero_le 1)
    | cons f rest =>
      cases rest with
      | nil => exact .inr (Nat.le_refl 1)
      | cons g rest =>
        have hsub : [f, g].Sublist (i.catalog.namesakes name i.functions) := by
          rw [hn]
          exact ((List.nil_sublist rest).cons_cons g).cons_cons f
        have hf := List.mem_filter.1 (hsub.subset List.mem_cons_self)
        have hg := List.mem_filter.1 (hsub.subset (List.mem_cons_of_mem f List.mem_cons_self))
        simp only [Bool.and_eq_true, beq_iff_eq] at hf hg
        have hd := h (hsub.trans List.filter_sublist) hf.2.1 hg.2.1 (hf.2.2.trans hg.2.2.symm)
        exact .inl (hf.2.2 ▸ hd)

end ScriptGlue.Inputs

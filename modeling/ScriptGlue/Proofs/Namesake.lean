import ScriptGlue.Proofs.Clash

namespace ScriptGlue

/-- The function converts, and gets a wrapper. -/
def FunctionDecl.isWrapped (c : Catalog) (f : FunctionDecl) : Bool :=
  (Wrapper.build c f).toOption.any (·.isNeeded)

theorem FunctionDecl.isWrapped_of_build {c : Catalog} {f : FunctionDecl} {w : Wrapper}
    (h : Wrapper.build c f = .ok w) : f.isWrapped c = w.isNeeded := by
  rw [isWrapped, h]
  rfl

theorem FunctionDecl.isWrapped_of_error {c : Catalog} {f : FunctionDecl} {r : Rejection}
    (h : Wrapper.build c f = .error r) : f.isWrapped c = false := by
  rw [isWrapped, h]
  rfl

theorem FunctionDecl.exists_build_of_isWrapped {c : Catalog} {f : FunctionDecl}
    (h : f.isWrapped c = true) : ∃ w, Wrapper.build c f = .ok w := by
  obtain ⟨w, hw, -⟩ := Option.any_eq_true _ _ |>.1 h
  exact ⟨w, Outcome.toOption_eq_some.1 hw⟩

theorem FunctionDecl.differ_iff {α : Type} {function : α → FunctionDecl} {xs : List α} :
    differ function xs = true ↔
      ∃ f ∈ xs.map function, ∃ g ∈ xs.map function, f.signature ≠ g.signature := by
  cases xs with
  | nil => simp [differ]
  | cons x rest =>
    rw [differ, List.any_eq_true]
    constructor
    · rintro ⟨y, hy, hne⟩
      exact ⟨_, List.mem_map_of_mem (List.mem_cons_of_mem x hy), _,
        List.mem_map_of_mem List.mem_cons_self, bne_iff_ne.1 hne⟩
    · rintro ⟨f, hf, g, hg, hne⟩
      by_contra hall
      have hsame : ∀ h ∈ (x :: rest).map function, h.signature = (function x).signature := by
        intro h hh
        obtain ⟨y, hy, rfl⟩ := List.mem_map.1 hh
        rcases List.mem_cons.1 hy with rfl | hy
        · rfl
        · by_contra hyx
          exact hall ⟨y, hy, bne_iff_ne.2 hyx⟩
      exact hne ((hsame f hf).trans (hsame g hg).symm)

namespace Catalog

/-- The wrappers of those functions that convert. -/
def wrappers (c : Catalog) (fs : List FunctionDecl) : List Wrapper :=
  fs.filterMap fun f => (Wrapper.build c f).toOption

variable {c : Catalog} {f : FunctionDecl} {fs gs : List FunctionDecl} {w : Wrapper}

theorem wrappers_append : c.wrappers (fs ++ gs) = c.wrappers fs ++ c.wrappers gs :=
  List.filterMap_append

theorem wrappers_cons_ok (h : Wrapper.build c f = .ok w) :
    c.wrappers (f :: fs) = w :: c.wrappers fs :=
  List.filterMap_cons_some (Outcome.toOption_eq_some.2 h)

theorem wrappers_cons_error {r : Rejection} (h : Wrapper.build c f = .error r) :
    c.wrappers (f :: fs) = c.wrappers fs :=
  List.filterMap_cons_none (by rw [h]; rfl)

def namesakes (c : Catalog) (name : String) (fs : List FunctionDecl) : List FunctionDecl :=
  fs.filter fun f => f.isWrapped c && f.wrapperName == name

def rivals (c : Catalog) (name : String) (k : Nat) (fs : List FunctionDecl) :
    List (Wrapper × Nat) :=
  (((c.wrappers fs).zipIdx k).filter (·.1.isNeeded)).filter (·.1.function.wrapperName == name)

theorem rivals_append {name : String} {k : Nat} : c.rivals name k (fs ++ gs) =
    c.rivals name k fs ++ c.rivals name (k + (c.wrappers fs).length) gs := by
  simp only [rivals, wrappers_append, List.zipIdx_append, List.filter_append]

theorem rivals_cons {name : String} {k : Nat} (h : Wrapper.build c f = .ok w) :
    c.rivals name k (f :: fs) =
      if w.isNeeded ∧ f.wrapperName = name then (w, k) :: c.rivals name (k + 1) fs
      else c.rivals name (k + 1) fs := by
  unfold rivals
  rw [wrappers_cons_ok h, List.zipIdx_cons, List.filter_cons]
  cases hn : w.isNeeded with
  | true =>
    rw [if_pos rfl, List.filter_cons]
    simp only [Wrapper.function_of_build h, beq_iff_eq, true_and]
  | false => simp

theorem map_function_rivals (name : String) (k : Nat) (fs : List FunctionDecl) :
    (c.rivals name k fs).map (·.1.function) = c.namesakes name fs := by
  induction fs generalizing k with
  | nil => rfl
  | cons f fs ih =>
    rw [namesakes, List.filter_cons]
    cases h : Wrapper.build c f with
    | error r =>
      rw [FunctionDecl.isWrapped_of_error h, rivals, wrappers_cons_error h]
      exact ih k
    | ok w =>
      rw [FunctionDecl.isWrapped_of_build h, rivals_cons h]
      simp only [Bool.and_eq_true, beq_iff_eq]
      split
      · rw [List.map_cons, ih, Wrapper.function_of_build h]
        rfl
      · exact ih (k + 1)

end Catalog

namespace Inputs

variable {i : Inputs}

/-- The functions that would get a wrapper of the name do not all have one signature. -/
def IsContested (i : Inputs) (name : String) : Prop :=
  ∃ f ∈ i.catalog.namesakes name i.functions, ∃ g ∈ i.catalog.namesakes name i.functions,
    f.signature ≠ g.signature

/-- The function at a position needs a wrapper whose name is contested, and it is not the first that
does. -/
structure IsSuperseded (i : Inputs) (n : Nat) (f : FunctionDecl) : Prop where
  wrapped : f.isWrapped i.catalog = true
  earlier : i.catalog.namesakes f.wrapperName (i.functions.take n) ≠ []
  contested : i.IsContested f.wrapperName

theorem converted_eq (i : Inputs) :
    i.converted = (i.catalog.wrappers i.functions).zipIdx := by
  rw [converted, attempts, List.filterMap_map]
  rfl

theorem rivals_eq (i : Inputs) (name : String) :
    i.rivals name = i.catalog.rivals name 0 i.functions := by
  rw [rivals, wrapped, converted_eq, Catalog.rivals]

theorem differ_rivals (i : Inputs) (name : String) :
    FunctionDecl.differ (·.1.function) (i.rivals name) = true ↔ i.IsContested name := by
  rw [FunctionDecl.differ_iff, rivals_eq, Catalog.map_function_rivals]
  rfl

theorem exists_build_of_mem_converted {x : Wrapper × Nat} (hx : x ∈ i.converted) :
    ∃ f ∈ i.functions, Wrapper.build i.catalog f = .ok x.1 := by
  rw [converted_eq] at hx
  obtain ⟨f, hf, hb⟩ := List.mem_filterMap.1 (List.fst_mem_of_mem_zipIdx hx)
  exact ⟨f, hf, Outcome.toOption_eq_some.1 hb⟩

theorem exists_build_of_mem_selected {w : Wrapper} (hw : w ∈ i.selected) :
    ∃ f ∈ i.functions, Wrapper.build i.catalog f = .ok w := by
  obtain ⟨x, hx, rfl⟩ := List.mem_map.1 hw
  exact exists_build_of_mem_converted (List.mem_of_mem_filter hx)

/-- The function at a position is the first that needs the wrapper of the name. -/
structure IsKeeper (i : Inputs) (name : String) (n : Nat) (f : FunctionDecl) : Prop where
  position : i.functions[n]? = some f
  wrapped : f.isWrapped i.catalog = true
  wrapperName : f.wrapperName = name
  first : i.catalog.namesakes name (i.functions.take n) = []

theorem IsKeeper.not_isSuperseded {name : String} {n : Nat} {f : FunctionDecl}
    (h : i.IsKeeper name n f) : ¬i.IsSuperseded n f := by
  intro hs
  exact hs.earlier (h.wrapperName ▸ h.first)

theorem IsSuperseded.exists_isKeeper {n : Nat} {f kept : FunctionDecl} (hs : i.IsSuperseded n f)
    (hk : (i.catalog.namesakes f.wrapperName i.functions).head? = some kept) :
    ∃ m < n, i.IsKeeper f.wrapperName m kept := by
  obtain ⟨rest, hrest⟩ := List.head?_eq_some_iff.1 hk
  obtain ⟨before, after, hf, hb, hp, -⟩ := List.filter_eq_cons_iff.1 hrest
  have hnone : i.catalog.namesakes f.wrapperName before = [] := List.filter_eq_nil_iff.2 hb
  simp only [Bool.and_eq_true, beq_iff_eq] at hp
  refine ⟨before.length, ?_, ?_, hp.1, hp.2, ?_⟩
  · -- otherwise nothing before the superseded function would have the name
    by_contra hle
    refine hs.earlier (List.filter_eq_nil_iff.2 fun g hg => hb g ?_)
    rw [hf, List.take_append_of_le_length (Nat.not_lt.1 hle)] at hg
    exact List.mem_of_mem_take hg
  · rw [hf, List.getElem?_append_right (Nat.le_refl _), Nat.sub_self, List.getElem?_cons_zero]
  · rw [hf, List.take_left, hnone]

section Position

variable {before after : List FunctionDecl} {f : FunctionDecl} {w : Wrapper}

theorem rivals_split (hf : i.functions = before ++ f :: after)
    (hw : Wrapper.build i.catalog f = .ok w) (hn : w.isNeeded = true) :
    i.rivals f.wrapperName = i.catalog.rivals f.wrapperName 0 before ++
      (w, (i.catalog.wrappers before).length) ::
        i.catalog.rivals f.wrapperName ((i.catalog.wrappers before).length + 1) after := by
  rw [rivals_eq, hf, Catalog.rivals_append, Catalog.rivals_cons hw, if_pos ⟨hn, rfl⟩, Nat.zero_add]

theorem mem_rivals_of_isNeeded (hf : i.functions = before ++ f :: after)
    (hw : Wrapper.build i.catalog f = .ok w) (hn : w.isNeeded = true) :
    (w, (i.catalog.wrappers before).length) ∈ i.rivals f.wrapperName := by
  rw [rivals_split hf hw hn]
  exact List.mem_append_right _ List.mem_cons_self

theorem clash?_of_isSuperseded (hf : i.functions = before ++ f :: after)
    (hw : Wrapper.build i.catalog f = .ok w) (hs : i.IsSuperseded before.length f) :
    ∃ kept, (i.catalog.namesakes f.wrapperName i.functions).head? = some kept ∧
      i.clash? (w, (i.catalog.wrappers before).length) = some
        ⟨(i.catalog.wrappers before).length, f.wrapperName, f.signature, kept.signature⟩ := by
  have hn : w.isNeeded = true := by
    rw [← FunctionDecl.isWrapped_of_build hw]
    exact hs.wrapped
  have hr := rivals_split hf hw hn
  have hx := mem_rivals_of_isNeeded hf hw hn
  cases hb : i.catalog.rivals f.wrapperName 0 before with
  | nil =>
    have he := hs.earlier
    rw [hf, List.take_left, ← Catalog.map_function_rivals f.wrapperName 0, hb] at he
    exact absurd rfl he
  | cons kept dropped =>
    rw [hb, List.cons_append] at hr
    refine ⟨kept.1.function, ?_, ?_⟩
    · rw [← Catalog.map_function_rivals f.wrapperName 0, ← rivals_eq, hr]
      rfl
    · have hlt := lt_of_rivals_eq hr _ (List.mem_append_right _ List.mem_cons_self)
      rw [clash?_of_mem_rivals hx hr, if_pos ⟨hlt, (i.differ_rivals _).2 hs.contested⟩,
        Wrapper.function_of_build hw]

theorem clash?_of_not_isSuperseded (hf : i.functions = before ++ f :: after)
    (hw : Wrapper.build i.catalog f = .ok w) (hs : ¬i.IsSuperseded before.length f) :
    i.clash? (w, (i.catalog.wrappers before).length) = none := by
  cases hn : w.isNeeded with
  | false => exact clash?_of_direct hn
  | true =>
    have hr := rivals_split hf hw hn
    have hx := mem_rivals_of_isNeeded hf hw hn
    cases hb : i.catalog.rivals f.wrapperName 0 before with
    | nil =>
      rw [hb, List.nil_append] at hr
      rw [clash?_of_mem_rivals hx hr, if_neg fun h => Nat.lt_irrefl _ h.1]
    | cons kept dropped =>
      rw [hb, List.cons_append] at hr
      rw [clash?_of_mem_rivals hx hr, if_neg]
      rintro ⟨-, hd⟩
      refine hs ⟨?_, ?_, (i.differ_rivals _).1 hd⟩
      · rw [FunctionDecl.isWrapped_of_build hw, hn]
      · rw [hf, List.take_left, ← Catalog.map_function_rivals f.wrapperName 0, hb]
        exact List.cons_ne_nil _ _

end Position

end Inputs

end ScriptGlue

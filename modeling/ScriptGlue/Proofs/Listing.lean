import ScriptGlue.Proofs.Namesake

namespace ScriptGlue

/-- The report is made of one entry for each declaration. The bound ones stand in their order, while
functions whose wrappers clash are listed after those that can not be converted. -/
structure Report.Lists (r : Report) (entries : List (BoundEntry ⊕ SkipEntry)) : Prop where
  bound : r.bound = entries.filterMap Sum.getLeft?
  skipped : r.skipped.Perm (entries.filterMap Sum.getRight?)

/-- The signature under which an entry stands. -/
def Report.declarationOf : BoundEntry ⊕ SkipEntry → String :=
  Sum.elim BoundEntry.declaration SkipEntry.declaration

namespace Catalog

variable {c : Catalog} {f : FunctionDecl} {fs : List FunctionDecl}

def rejections (c : Catalog) (fs : List FunctionDecl) : List (FunctionDecl × Rejection) :=
  fs.filterMap fun f =>
    match Wrapper.build c f with
    | .error r => some (f, r)
    | .ok _ => none

theorem rejections_cons_error {r : Rejection} (h : Wrapper.build c f = .error r) :
    c.rejections (f :: fs) = (f, r) :: c.rejections fs :=
  List.filterMap_cons_some (by rw [h])

theorem rejections_cons_ok {w : Wrapper} (h : Wrapper.build c f = .ok w) :
    c.rejections (f :: fs) = c.rejections fs :=
  List.filterMap_cons_none (by rw [h])

end Catalog

namespace Inputs

variable {i : Inputs} {before after : List FunctionDecl} {f : FunctionDecl} {w : Wrapper}

def entryOf (i : Inputs) (x : Wrapper × Nat) : BoundEntry ⊕ SkipEntry :=
  match i.clash? x with
  | some k => .inr (.ofCollision k.dropped k.wrapper k.kept)
  | none => .inl x.1.entry

def entriesFrom (i : Inputs) : Nat → List FunctionDecl → List (BoundEntry ⊕ SkipEntry)
  | _, [] => []
  | k, f :: fs =>
    match Wrapper.build i.catalog f with
    | .error r => .inr (.ofRejection f.signature r) :: i.entriesFrom k fs
    | .ok w => i.entryOf (w, k) :: i.entriesFrom (k + 1) fs

def functionEntries (i : Inputs) : List (BoundEntry ⊕ SkipEntry) := i.entriesFrom 0 i.functions

theorem entriesFrom_error {r : Rejection} {k : Nat} {fs : List FunctionDecl}
    (h : Wrapper.build i.catalog f = .error r) :
    i.entriesFrom k (f :: fs) = .inr (.ofRejection f.signature r) :: i.entriesFrom k fs := by
  rw [entriesFrom, h]

theorem entriesFrom_ok {k : Nat} {fs : List FunctionDecl} (h : Wrapper.build i.catalog f = .ok w) :
    i.entriesFrom k (f :: fs) = i.entryOf (w, k) :: i.entriesFrom (k + 1) fs := by
  rw [entriesFrom, h]

theorem length_entriesFrom (i : Inputs) (k : Nat) (fs : List FunctionDecl) :
    (i.entriesFrom k fs).length = fs.length := by
  induction fs generalizing k with
  | nil => rfl
  | cons f fs ih =>
    cases h : Wrapper.build i.catalog f with
    | error r => rw [entriesFrom_error h, List.length_cons, ih, List.length_cons]
    | ok w => rw [entriesFrom_ok h, List.length_cons, ih, List.length_cons]

theorem entriesFrom_append (i : Inputs) (k : Nat) (fs gs : List FunctionDecl) :
    i.entriesFrom k (fs ++ gs) =
      i.entriesFrom k fs ++ i.entriesFrom (k + (i.catalog.wrappers fs).length) gs := by
  induction fs generalizing k with
  | nil => rfl
  | cons f fs ih =>
    rw [List.cons_append]
    cases h : Wrapper.build i.catalog f with
    | error r =>
      rw [entriesFrom_error h, entriesFrom_error h, ih, Catalog.wrappers_cons_error h,
        List.cons_append]
    | ok w =>
      rw [entriesFrom_ok h, entriesFrom_ok h, ih, Catalog.wrappers_cons_ok h, List.cons_append,
        List.length_cons, Nat.add_right_comm, Nat.add_assoc]

theorem functionEntries_eq (hf : i.functions = before ++ f :: after) :
    i.functionEntries[before.length]? =
      (i.entriesFrom (i.catalog.wrappers before).length (f :: after)).head? := by
  have hl : (i.entriesFrom 0 before).length = before.length := length_entriesFrom i 0 before
  rw [functionEntries, hf, entriesFrom_append, Nat.zero_add, ← hl,
    List.getElem?_append_right (Nat.le_refl _), Nat.sub_self, List.head?_eq_getElem?]

theorem filterMap_getLeft?_entriesFrom (i : Inputs) (k : Nat) (fs : List FunctionDecl) :
    (i.entriesFrom k fs).filterMap Sum.getLeft? =
      (((i.catalog.wrappers fs).zipIdx k).filter fun x => (i.clash? x).isNone).map (·.1.entry) := by
  induction fs generalizing k with
  | nil => rfl
  | cons f fs ih =>
    cases h : Wrapper.build i.catalog f with
    | error r =>
      rw [entriesFrom_error h, Catalog.wrappers_cons_error h]
      exact ih k
    | ok w =>
      rw [entriesFrom_ok h, Catalog.wrappers_cons_ok h, List.zipIdx_cons, entryOf]
      cases hc : i.clash? (w, k) with
      | some n =>
        rw [List.filter_cons_of_neg (by simp [hc])]
        exact ih (k + 1)
      | none =>
        rw [List.filter_cons_of_pos (by simp [hc]), List.map_cons, ← ih]
        rfl

theorem filterMap_getRight?_entriesFrom (i : Inputs) (k : Nat) (fs : List FunctionDecl) :
    ((i.entriesFrom k fs).filterMap Sum.getRight?).Perm
      ((i.catalog.rejections fs).map (fun r => .ofRejection r.1.signature r.2) ++
        (((i.catalog.wrappers fs).zipIdx k).filterMap i.clash?).map fun k =>
          .ofCollision k.dropped k.wrapper k.kept) := by
  induction fs generalizing k with
  | nil => exact .nil
  | cons f fs ih =>
    cases h : Wrapper.build i.catalog f with
    | error r =>
      rw [entriesFrom_error h, Catalog.wrappers_cons_error h, Catalog.rejections_cons_error h]
      exact (ih k).cons _
    | ok w =>
      rw [entriesFrom_ok h, Catalog.wrappers_cons_ok h, Catalog.rejections_cons_ok h,
        List.zipIdx_cons, entryOf]
      cases hc : i.clash? (w, k) with
      | some n =>
        rw [List.filterMap_cons_some hc]
        exact ((ih (k + 1)).cons _).trans List.perm_middle.symm
      | none =>
        rw [List.filterMap_cons_none hc]
        exact ih (k + 1)

theorem rejected_eq (i : Inputs) : i.rejected = i.catalog.rejections i.functions := by
  rw [rejected, attempts, List.filterMap_map]
  rfl

theorem filterMap_getLeft?_functionEntries (i : Inputs) :
    i.functionEntries.filterMap Sum.getLeft? = i.selected.map (·.entry) := by
  rw [functionEntries, filterMap_getLeft?_entriesFrom, selected_eq, converted_eq, List.map_map]
  rfl

theorem filterMap_getRight?_functionEntries (i : Inputs) :
    (i.functionEntries.filterMap Sum.getRight?).Perm
      (i.rejected.map (fun r => .ofRejection r.1.signature r.2) ++
        i.clashes.map fun k => .ofCollision k.dropped k.wrapper k.kept) := by
  rw [functionEntries, rejected_eq]
  refine (filterMap_getRight?_entriesFrom i 0 i.functions).trans (List.Perm.append_left _ ?_)
  rw [← converted_eq]
  exact (i.clashes_perm.map _).symm

theorem functionEntries_of_error {r : Rejection} (hf : i.functions = before ++ f :: after)
    (h : Wrapper.build i.catalog f = .error r) :
    i.functionEntries[before.length]? = some (.inr (.ofRejection f.signature r)) := by
  rw [functionEntries_eq hf, entriesFrom_error h, List.head?_cons]

theorem functionEntries_of_ok (hf : i.functions = before ++ f :: after)
    (h : Wrapper.build i.catalog f = .ok w) : i.functionEntries[before.length]? =
      some (i.entryOf (w, (i.catalog.wrappers before).length)) := by
  rw [functionEntries_eq hf, entriesFrom_ok h, List.head?_cons]

theorem exists_append_of_getElem? {α : Type} {xs : List α} {n : Nat} {x : α}
    (h : xs[n]? = some x) : ∃ before after, xs = before ++ x :: after ∧ before.length = n := by
  obtain ⟨hn, rfl⟩ := List.getElem?_eq_some_iff.1 h
  refine ⟨xs.take n, xs.drop (n + 1), ?_, List.length_take_of_le (Nat.le_of_lt hn)⟩
  rw [← List.drop_eq_getElem_cons hn, List.take_append_drop]

theorem functionEntries_eq_bound {n : Nat} (hf : i.functions[n]? = some f) {e : BoundEntry} :
    i.functionEntries[n]? = some (.inl e) ↔
      (∃ w, Wrapper.build i.catalog f = .ok w ∧ w.entry = e) ∧ ¬i.IsSuperseded n f := by
  obtain ⟨before, after, hfs, rfl⟩ := exists_append_of_getElem? hf
  cases h : Wrapper.build i.catalog f with
  | error r =>
    rw [functionEntries_of_error hfs h]
    simp
  | ok w =>
    rw [functionEntries_of_ok hfs h, entryOf]
    by_cases hs : i.IsSuperseded before.length f
    · obtain ⟨kept, -, hc⟩ := clash?_of_isSuperseded hfs h hs
      rw [hc]
      simp [hs]
    · rw [clash?_of_not_isSuperseded hfs h hs]
      simp [hs]

theorem functionEntries_of_isSuperseded {n : Nat} (hf : i.functions[n]? = some f)
    (hs : i.IsSuperseded n f) :
    ∃ kept, (i.catalog.namesakes f.wrapperName i.functions).head? = some kept ∧
      i.functionEntries[n]? =
        some (.inr (.ofCollision f.signature f.wrapperName kept.signature)) := by
  obtain ⟨before, after, hfs, rfl⟩ := exists_append_of_getElem? hf
  obtain ⟨w, hw⟩ := FunctionDecl.exists_build_of_isWrapped hs.wrapped
  obtain ⟨kept, hk, hc⟩ := clash?_of_isSuperseded hfs hw hs
  refine ⟨kept, hk, ?_⟩
  rw [functionEntries_of_ok hfs hw, entryOf, hc]

theorem entryOf_declaration (i : Inputs) (x : Wrapper × Nat) :
    Report.declarationOf (i.entryOf x) = x.1.function.signature := by
  rw [entryOf]
  split
  · rename_i k h
    exact (clash?_eq_some h).2
  · rfl

theorem functionEntries_declaration (i : Inputs) :
    i.functionEntries.map Report.declarationOf = i.functions.map (·.signature) := by
  suffices ∀ k fs, (i.entriesFrom k fs).map Report.declarationOf = fs.map (·.signature) by
    exact this 0 i.functions
  intro k fs
  induction fs generalizing k with
  | nil => rfl
  | cons f fs ih =>
    cases h : Wrapper.build i.catalog f with
    | error r =>
      rw [entriesFrom_error h, List.map_cons, ih, List.map_cons]
      rfl
    | ok w =>
      rw [entriesFrom_ok h, List.map_cons, ih, List.map_cons, entryOf_declaration,
        Wrapper.function_of_build h]

end Inputs

namespace FieldDecl

variable {c : Catalog} {o : GlueOptions} {f : FieldDecl} {b : Binding}

theorem bind_eq_ok : f.bind c o = .ok b ↔ ∃ type, c.scriptDeclaration f.type .result = .ok type ∧
    { entry := { declaration := f.signature, script := type ++ " " ++ f.name.shown }
      registration := {
        statements := [.objectProperty f.owner.shown (type ++ " " ++ f.name.shown) f.name.shown]
        guard? := c.conventions.guardFor? f.header
        comment? := if o.signatureComments then some f.signature else none } } = b := by
  rw [bind]
  simp only [Outcome.bind_eq_ok, Outcome.pure_eq_ok]

def entryOf (c : Catalog) (o : GlueOptions) (f : FieldDecl) : BoundEntry ⊕ SkipEntry :=
  match f.bind c o with
  | .error r => .inr (.ofRejection f.signature r)
  | .ok b => .inl b.entry

theorem entryOf_declaration (c : Catalog) (o : GlueOptions) (f : FieldDecl) :
    Report.declarationOf (f.entryOf c o) = f.signature := by
  rw [entryOf]
  cases h : f.bind c o with
  | error r => rfl
  | ok b =>
    obtain ⟨type, -, rfl⟩ := bind_eq_ok.1 h
    rfl

end FieldDecl

namespace Inputs

def listedFields (i : Inputs) (o : GlueOptions) : List FieldDecl :=
  if o.bindFields then i.fields else []

def fieldEntries (i : Inputs) (o : GlueOptions) : List (BoundEntry ⊕ SkipEntry) :=
  (i.listedFields o).map (·.entryOf i.catalog o)

variable {i : Inputs} {o : GlueOptions}

theorem fieldEntries_declaration (i : Inputs) (o : GlueOptions) :
    (i.fieldEntries o).map Report.declarationOf = (i.listedFields o).map (·.signature) := by
  rw [fieldEntries, List.map_map]
  exact List.map_congr_left fun f _ => f.entryOf_declaration i.catalog o

theorem fieldAttempts_eq (i : Inputs) (o : GlueOptions) :
    i.fieldAttempts o = (i.listedFields o).map fun f => (f, f.bind i.catalog o) := by
  rw [fieldAttempts, listedFields]
  split
  · rfl
  · rfl

theorem exists_bind_of_mem_boundFields {b : Binding} (hb : b ∈ i.boundFields o) :
    ∃ f ∈ i.fields, FieldDecl.bind i.catalog o f = .ok b := by
  rw [boundFields, fieldAttempts_eq, List.filterMap_map] at hb
  obtain ⟨f, hm, hf⟩ := List.mem_filterMap.1 hb
  refine ⟨f, ?_, Outcome.toOption_eq_some.1 hf⟩
  rw [listedFields] at hm
  split at hm
  · exact hm
  · cases hm

theorem wrapper?_of_mem_boundFields {b : Binding} (hb : b ∈ i.boundFields o) :
    b.entry.wrapper? = none := by
  obtain ⟨f, -, hf⟩ := exists_bind_of_mem_boundFields hb
  obtain ⟨type, -, rfl⟩ := FieldDecl.bind_eq_ok.1 hf
  rfl

theorem filterMap_getLeft?_fieldEntries (i : Inputs) (o : GlueOptions) :
    (i.fieldEntries o).filterMap Sum.getLeft? = (i.boundFields o).map (·.entry) := by
  rw [fieldEntries, boundFields, fieldAttempts_eq, List.filterMap_map, List.filterMap_map,
    List.map_filterMap]
  refine List.filterMap_congr fun f _ => ?_
  simp only [Function.comp_apply, FieldDecl.entryOf]
  cases f.bind i.catalog o with
  | error r => rfl
  | ok b => rfl

theorem filterMap_getRight?_fieldEntries (i : Inputs) (o : GlueOptions) :
    (i.fieldEntries o).filterMap Sum.getRight? =
      (i.refusedFields o).map fun r => .ofRejection r.1 r.2 := by
  rw [fieldEntries, refusedFields, fieldAttempts_eq, List.filterMap_map, List.filterMap_map,
    List.map_filterMap]
  refine List.filterMap_congr fun f _ => ?_
  simp only [Function.comp_apply, FieldDecl.entryOf]
  cases f.bind i.catalog o with
  | error r => rfl
  | ok b => rfl

/-- The report of a generation has one entry for each function and for each field that is asked
for. -/
theorem lists_of_bound {r : Report} (hs : r.skipped = i.skips o)
    (hb : r.bound = i.selected.map (·.entry) ++ (i.boundFields o).map (·.entry)) :
    r.Lists (i.functionEntries ++ i.fieldEntries o) where
  bound := by
    rw [hb, List.filterMap_append, filterMap_getLeft?_functionEntries,
      filterMap_getLeft?_fieldEntries]
  skipped := by
    rw [hs, skips, List.filterMap_append, filterMap_getRight?_fieldEntries]
    exact i.filterMap_getRight?_functionEntries.symm.append_right _

end Inputs

end ScriptGlue

import ScriptGlue.Proofs.Emission

namespace ScriptGlue

/-- Two lists of items, some of which have names, differ only in their order and in which item has
each contested name. There is one such item in either list. -/
structure SameButKept {α : Type} (contested : String → Prop) (name? : α → Option String)
    (xs ys : List α) : Prop where
  unnamed : (ys.filter fun x => name? x = none).Perm (xs.filter fun x => name? x = none)
  uncontested : ∀ n, ¬contested n →
    (ys.filter fun x => name? x = some n).Perm (xs.filter fun x => name? x = some n)
  kept : ∀ n, contested n → (xs.filter fun x => name? x = some n).length = 1 ∧
    (ys.filter fun x => name? x = some n).length = 1

namespace SameButKept

variable {α β : Type} {contested : String → Prop} {name? : α → Option String} {xs ys : List α}

theorem length_filter_eq (h : SameButKept contested name? xs ys) (n : String) :
    (ys.filter fun x => name? x = some n).length =
      (xs.filter fun x => name? x = some n).length := by
  by_cases hn : contested n
  · rw [(h.kept n hn).1, (h.kept n hn).2]
  · exact (h.uncontested n hn).length_eq

theorem names_perm (h : SameButKept contested name? xs ys) :
    (ys.filterMap name?).Perm (xs.filterMap name?) := by
  rw [List.perm_iff_count]
  intro n
  simp only [List.count_filterMap, List.countP_eq_length_filter, beq_eq_decide]
  exact h.length_filter_eq n

theorem length_eq_add (name? : α → Option String) (xs : List α) : xs.length =
    (xs.filter fun x => name? x = none).length + (xs.filterMap name?).length := by
  induction xs with
  | nil => rfl
  | cons x xs ih =>
    rw [List.length_cons, ih]
    cases hx : name? x with
    | none => rw [List.filter_cons_of_pos (by simp [hx]), List.filterMap_cons_none hx,
        List.length_cons, Nat.add_right_comm]
    | some n => rw [List.filter_cons_of_neg (by simp [hx]), List.filterMap_cons_some hx,
        List.length_cons, Nat.add_assoc]

theorem length_eq (h : SameButKept contested name? xs ys) : ys.length = xs.length := by
  rw [length_eq_add name? ys, length_eq_add name? xs, h.unnamed.length_eq, h.names_perm.length_eq]

theorem map (h : SameButKept contested name? xs ys) {name?' : β → Option String} {f : α → β}
    (hf : ∀ x, name?' (f x) = name? x) : SameButKept contested name?' (xs.map f) (ys.map f) := by
  have hfilter (zs : List α) (n? : Option String) :
      (zs.map f).filter (fun y => name?' y = n?) = (zs.filter fun x => name? x = n?).map f := by
    rw [List.filter_map]
    simp only [Function.comp_def, hf]
  refine ⟨?_, fun n hn => ?_, fun n hn => ?_⟩
  · rw [hfilter, hfilter]
    exact h.unnamed.map f
  · rw [hfilter, hfilter]
    exact (h.uncontested n hn).map f
  · rw [hfilter, hfilter, List.length_map, List.length_map]
    exact h.kept n hn

theorem append (h : SameButKept contested name? xs ys) {zs : List α}
    (hz : ∀ z ∈ zs, name? z = none) : SameButKept contested name? (xs ++ zs) (ys ++ zs) := by
  have hnone (n : String) : zs.filter (fun z => name? z = some n) = [] := by
    rw [List.filter_eq_nil_iff]
    intro z hm
    simp [hz z hm]
  refine ⟨?_, fun n hn => ?_, fun n hn => ?_⟩
  · rw [List.filter_append, List.filter_append]
    exact h.unnamed.append_right _
  · rw [List.filter_append, List.filter_append, hnone, List.append_nil, List.append_nil]
    exact h.uncontested n hn
  · rw [List.filter_append, List.filter_append, hnone, List.append_nil, List.append_nil]
    exact h.kept n hn

end SameButKept

namespace Inputs

variable {i : Inputs} {fs : List FunctionDecl} {name : String}

theorem wrappers_perm (h : fs.Perm i.functions) (c : Catalog) :
    (c.wrappers fs).Perm (c.wrappers i.functions) := h.filterMap _

theorem isContested_perm (h : fs.Perm i.functions) :
    { i with functions := fs }.IsContested name ↔ i.IsContested name := by
  have hmem (f : FunctionDecl) : f ∈ i.catalog.namesakes name fs ↔
      f ∈ i.catalog.namesakes name i.functions := (h.filter _).mem_iff
  simp only [IsContested, hmem]

theorem map_fst_filter_converted (i : Inputs) (p : Wrapper → Bool) :
    (i.converted.filter fun x => p x.1).map (·.1) =
      (i.catalog.wrappers i.functions).filter p := by
  conv_rhs => rw [← List.zipIdx_map_fst 0 (i.catalog.wrappers i.functions), List.filter_map]
  rw [converted_eq]
  rfl

theorem filter_selected_none (i : Inputs) :
    i.selected.filter (fun w => w.entry.wrapper? = none) =
      (i.catalog.wrappers i.functions).filter (!·.isNeeded) := by
  rw [selected_eq, List.filter_map, List.filter_filter, ← map_fst_filter_converted]
  congr 1
  refine List.filter_congr fun x _ => ?_
  cases hn : x.1.isNeeded with
  | true => simp [Wrapper.entry, hn]
  | false => simp [Wrapper.entry, hn, clash?_of_direct hn]

theorem filter_selected_some (i : Inputs) (name : String) :
    i.selected.filter (fun w => w.entry.wrapper? = some name) = (i.keepers name).map (·.1) := by
  rw [selected_eq, keepers, rivals, wrapped, List.filter_map]
  simp only [List.filter_filter]
  congr 1
  refine List.filter_congr fun x hx => ?_
  cases hn : x.1.isNeeded with
  | true => simp [Wrapper.entry, hn, name_of_mem_converted hx, Bool.and_comm, beq_eq_decide]
  | false => simp [Wrapper.entry, hn]

theorem map_fst_rivals (i : Inputs) (name : String) : (i.rivals name).map (·.1) =
    (i.catalog.wrappers i.functions).filter
      fun w => w.function.wrapperName == name && w.isNeeded := by
  rw [rivals, wrapped, List.filter_filter, ← map_fst_filter_converted]

theorem length_keepers_of_isContested (hd : i.IsContested name) : (i.keepers name).length = 1 := by
  refine Nat.le_antisymm (keepers_of_isContested hd) ?_
  cases hr : i.rivals name with
  | nil =>
    have hdiffer := (i.differ_rivals name).2 hd
    rw [hr] at hdiffer
    cases hdiffer
  | cons kept dropped =>
    have hm : kept ∈ i.rivals name := hr ▸ List.mem_cons_self
    have hkept : kept ∈ i.keepers name := by
      refine List.mem_filter.2 ⟨hm, ?_⟩
      rw [clash?_of_mem_rivals hm hr, if_neg fun h => Nat.lt_irrefl _ h.1]
      rfl
    exact List.length_pos_of_mem hkept

theorem selected_reordered (h : fs.Perm i.functions) :
    SameButKept i.IsContested (·.entry.wrapper?) i.selected
      { i with functions := fs }.selected := by
  refine ⟨?_, fun n hn => ?_, fun n hn => ?_⟩
  · rw [filter_selected_none, filter_selected_none]
    exact (wrappers_perm h i.catalog).filter _
  · rw [filter_selected_some, filter_selected_some, keepers_of_not_isContested hn,
      keepers_of_not_isContested (mt (isContested_perm h).1 hn), map_fst_rivals, map_fst_rivals]
    exact (wrappers_perm h i.catalog).filter _
  · rw [filter_selected_some, filter_selected_some, List.length_map, List.length_map]
    exact ⟨length_keepers_of_isContested hn,
      length_keepers_of_isContested ((isContested_perm h).2 hn)⟩

theorem eraseDups_perm {α : Type} [BEq α] [LawfulBEq α] {xs ys : List α} (h : ys.Perm xs) :
    ys.eraseDups.Perm xs.eraseDups := by
  refine (List.perm_ext_iff_of_nodup (Table.nodup_eraseDups _) (Table.nodup_eraseDups _)).2 ?_
  intro x
  rw [List.mem_eraseDups, List.mem_eraseDups, h.mem_iff]

theorem headers_perm (h : fs.Perm i.functions) (head : Attribute) :
    ({ i with functions := fs }.headers head).Perm (i.headers head) :=
  eraseDups_perm ((((h.map _).append_right _).filter _).map _)

theorem filter_diagnosed (i : Inputs) (o : GlueOptions) :
    (i.skips o).filter (·.diagnosis?.isSome) =
      i.rejected.map (fun r => SkipEntry.ofRejection r.1.signature r.2) ++
        (i.refusedFields o).map fun r => SkipEntry.ofRejection r.1 r.2 := by
  have hrejections {α : Type} (f : α → SkipEntry) (hf : ∀ x, (f x).diagnosis?.isSome = true)
      (xs : List α) : (xs.map f).filter (·.diagnosis?.isSome) = xs.map f := by
    rw [List.filter_eq_self]
    intro e he
    obtain ⟨x, -, rfl⟩ := List.mem_map.1 he
    exact hf x
  have hclashes : (i.clashes.map fun c => SkipEntry.ofCollision c.dropped c.wrapper c.kept).filter
      (·.diagnosis?.isSome) = [] := by
    rw [List.filter_eq_nil_iff]
    intro e he
    obtain ⟨k, -, rfl⟩ := List.mem_map.1 he
    exact Bool.false_ne_true
  rw [skips, List.filter_append, List.filter_append, hclashes, List.append_nil,
    hrejections _ fun _ => rfl, hrejections _ fun _ => rfl]

theorem diagnosed_perm (h : fs.Perm i.functions) (o : GlueOptions) :
    ((({ i with functions := fs } : Inputs).skips o).filter (·.diagnosis?.isSome)).Perm
      ((i.skips o).filter (·.diagnosis?.isSome)) := by
  have hrejected : { i with functions := fs }.rejected.Perm i.rejected := (h.map _).filterMap _
  rw [filter_diagnosed, filter_diagnosed]
  exact (hrejected.map _).append_right _

end Inputs

namespace Wrapper

/-- What the wrapper is bound to. If that fails, nothing but its entry is of interest. -/
def bound (w : Wrapper) (o : GlueOptions) : Binding :=
  (w.bind .packaged o).toOption.getD (w.binding o "" none)

theorem wrapper?_bound (w : Wrapper) (o : GlueOptions) :
    (w.bound o).entry.wrapper? = w.entry.wrapper? := by
  rw [bound]
  cases h : w.bind .packaged o with
  | error e => rfl
  | ok b =>
    show b.entry.wrapper? = w.entry.wrapper?
    rw [entry_of_bind h]

theorem eq_map_bound {o : GlueOptions} {ws : List Wrapper} {bs : List Binding}
    (h : List.Forall₂ (fun w b => w.bind .packaged o = .ok b) ws bs) :
    bs = ws.map (·.bound o) := by
  induction h with
  | nil => rfl
  | cons hb _ ih =>
    rw [List.map_cons, ← ih, bound, hb]
    rfl

end Wrapper

theorem length_filterMap_sum {α β : Type} (xs : List (α ⊕ β)) :
    (xs.filterMap Sum.getLeft?).length + (xs.filterMap Sum.getRight?).length = xs.length := by
  induction xs with
  | nil => rfl
  | cons x xs ih =>
    cases x with
    | inl a =>
      rw [List.filterMap_cons_some (Sum.getLeft?_inl), List.filterMap_cons_none (Sum.getRight?_inl),
        List.length_cons, Nat.add_right_comm, ih, List.length_cons]
    | inr b =>
      rw [List.filterMap_cons_none (Sum.getLeft?_inr), List.filterMap_cons_some (Sum.getRight?_inr),
        List.length_cons, ← Nat.add_assoc, ih, List.length_cons]

theorem Report.Lists.length_eq {r : Report} {entries : List (BoundEntry ⊕ SkipEntry)}
    (h : r.Lists entries) : r.bound.length + r.skipped.length = entries.length := by
  rw [h.bound, h.skipped.length_eq, length_filterMap_sum]

/-- The reports of two orders have as many entries. They list the same wrappers and the same
rejections, and the same is bound but for which function keeps a contested name. -/
structure Report.Reorders (contested : String → Prop) (r₁ r₂ : Report) : Prop where
  boundCount : r₂.bound.length = r₁.bound.length
  skippedCount : r₂.skipped.length = r₁.skipped.length
  bound : SameButKept contested (·.wrapper?) r₁.bound r₂.bound
  wrappers : (r₂.bound.filterMap (·.wrapper?)).Perm (r₁.bound.filterMap (·.wrapper?))
  rejected : (r₂.skipped.filter (·.diagnosis?.isSome)).Perm
    (r₁.skipped.filter (·.diagnosis?.isSome))

namespace CommandLine

variable {s s' s₁ s₂ : LoggedTree} {told : List Notice} {library : FileTree → TemplateLibrary}
  {o : GlueOptions} {d : Destination} {i : Inputs} {r r₁ r₂ : Report} {fs : List FunctionDecl}

/-- The generated file has the wrappers and the registrations of the bindings that the report
lists, each for its own entry. -/
structure IsMadeOf (o : GlueOptions) (d : Destination) (i : Inputs) (t : FileTree) (r : Report)
    (bs : List Binding) : Prop where
  listed : r.bound = bs.map (·.entry)
  faithful : ∀ b ∈ bs, b.IsFaithful
  source : d.Holds t (Glue.sourceText o (i.headers o.strippedHead)
    (bs.filterMap (·.wrapperSource?)) (bs.map (·.registration.text)))

theorem emit_report (h : (emit s told library o d i).outcome = .ok (s', r)) :
    r.bound = i.selected.map (·.entry) ++ (i.boundFields o).map (·.entry) ∧
      r.skipped = i.skips o := by
  obtain ⟨g, hg, -, rfl⟩ := emit_eq_ok.1 h
  obtain ⟨functions, hf, -, hb, hr⟩ := Glue.generate_eq_ok hg
  rw [hr, hb, List.map_append, Glue.entries_of_bind hf]
  exact ⟨rfl, rfl⟩

theorem emit_isMadeOf (hl : ∀ t, library t = .packaged)
    (ho : o.bindingsTemplate = Template.bindingsName)
    (h : (emit s told library o d i).outcome = .ok (s', r)) :
    IsMadeOf o d i s'.tree r (i.selected.map (·.bound o) ++ i.boundFields o) := by
  obtain ⟨functions, hf, hd, hb⟩ := emit_bindings hl ho h
  rw [← Wrapper.eq_map_bound hf]
  exact ⟨hb, fun b hm => Glue.isFaithful_of_mem hf hm, hd⟩

theorem report_reorders (h : fs.Perm i.functions)
    (h₁ : (emit s told library o d i).outcome = .ok (s₁, r₁))
    (h₂ : (emit s told library o d { i with functions := fs }).outcome = .ok (s₂, r₂)) :
    Report.Reorders i.IsContested r₁ r₂ := by
  obtain ⟨hb₁, hs₁⟩ := emit_report h₁
  obtain ⟨hb₂, hs₂⟩ := emit_report h₂
  have hbound : SameButKept i.IsContested (·.wrapper?) r₁.bound r₂.bound := by
    rw [hb₁, hb₂]
    refine ((Inputs.selected_reordered h).map fun _ => rfl).append fun e he => ?_
    obtain ⟨b, hb, rfl⟩ := List.mem_map.1 he
    exact Inputs.wrapper?_of_mem_boundFields hb
  have hentries : r₂.bound.length + r₂.skipped.length = r₁.bound.length + r₁.skipped.length := by
    rw [(emit_lists h₁).length_eq, (emit_lists h₂).length_eq, List.length_append,
      List.length_append, Inputs.functionEntries, Inputs.functionEntries,
      Inputs.length_entriesFrom, Inputs.length_entriesFrom, h.length_eq]
    rfl
  refine ⟨hbound.length_eq, ?_, hbound, hbound.names_perm, ?_⟩
  · have hlength := hbound.length_eq
    omega
  · rw [hs₁, hs₂]
    exact Inputs.diagnosed_perm h o

/-- The functions may come in any order. Runs that are ready come to their end in either, and
wherever both do, their reports have as many bound and as many skipped entries, what is registered
directly and what has an uncontested name is the same, the same functions do not convert, and the
same wrappers are defined. The files are made of the same headers and of the same texts but for the
functions that keep contested names. -/
theorem emit_reordered (s : LoggedTree) (told : List Notice) (library : FileTree → TemplateLibrary)
    (o : GlueOptions) (d : Destination) (i : Inputs) (fs : List FunctionDecl)
    (h : fs.Perm i.functions) :
    (IsReady s library o d i →
      (∃ s₁ r₁, (emit s told library o d i).outcome = .ok (s₁, r₁)) ∧
      ∃ s₂ r₂, (emit s told library o d { i with functions := fs }).outcome = .ok (s₂, r₂)) ∧
    ∀ s₁ r₁ s₂ r₂, (emit s told library o d i).outcome = .ok (s₁, r₁) →
      (emit s told library o d { i with functions := fs }).outcome = .ok (s₂, r₂) →
      Report.Reorders i.IsContested r₁ r₂ ∧
      ((∀ t, library t = .packaged) → o.bindingsTemplate = Template.bindingsName →
        ∃ bs₁ bs₂, IsMadeOf o d i s₁.tree r₁ bs₁ ∧
          IsMadeOf o d { i with functions := fs } s₂.tree r₂ bs₂ ∧
          SameButKept i.IsContested (·.entry.wrapper?) bs₁ bs₂ ∧
          ({ i with functions := fs }.headers o.strippedHead).Perm (i.headers o.strippedHead)) := by
  refine ⟨fun hi => ⟨emit_total hi told, ?_⟩, fun s₁ r₁ s₂ r₂ h₁ h₂ => ⟨?_, fun hl ho => ?_⟩⟩
  · have htyped : { i with functions := fs }.IsTyped :=
      ⟨hi.typed.comments, fun f hf => hi.typed.functions f (h.mem_iff.1 hf), hi.typed.fieldHeaders⟩
    exact emit_total { hi with typed := htyped } told
  · exact report_reorders h h₁ h₂
  · have hfunctions : SameButKept i.IsContested (fun b : Binding => b.entry.wrapper?)
        (i.selected.map (·.bound o))
        (({ i with functions := fs } : Inputs).selected.map (·.bound o)) :=
      (Inputs.selected_reordered h).map fun w => w.wrapper?_bound o
    exact ⟨_, _, emit_isMadeOf hl ho h₁, emit_isMadeOf hl ho h₂,
      hfunctions.append fun b hb => Inputs.wrapper?_of_mem_boundFields hb,
      Inputs.headers_perm h o.strippedHead⟩

/-- Each of two functions that would share a name keeps it if it comes first. -/
theorem emit_reordered_loaders :
    loaders.functions.reverse.Perm loaders.functions ∧ ∃ s₁ r₁ s₂ r₂ bs₁ bs₂,
      (emit { tree := {} } [] (fun _ => .packaged) {} freshDestination loaders).outcome =
        .ok (s₁, r₁) ∧
      (emit { tree := {} } [] (fun _ => .packaged) {} freshDestination
        { loaders with functions := loaders.functions.reverse }).outcome = .ok (s₂, r₂) ∧
      Report.Reorders loaders.IsContested r₁ r₂ ∧
      IsMadeOf {} freshDestination loaders s₁.tree r₁ bs₁ ∧
      IsMadeOf {} freshDestination { loaders with functions := loaders.functions.reverse }
        s₂.tree r₂ bs₂ ∧
      SameButKept loaders.IsContested (·.entry.wrapper?) bs₁ bs₂ ∧
      r₁.bound.map (·.declaration) =
        ["SharedPtr<Image> Load(Node*)", "int Count()", "int Node::size"] ∧
      r₂.bound.map (·.declaration) =
        ["int Count()", "SharedPtr<Image> Load(Node&)", "int Node::size"] := by
  have h : loaders.functions.reverse.Perm loaders.functions := List.reverse_perm _
  obtain ⟨hreturns, hruns⟩ := emit_reordered { tree := {} } [] (fun _ => .packaged) {}
    freshDestination loaders loaders.functions.reverse h
  obtain ⟨⟨s₁, r₁, h₁⟩, s₂, r₂, h₂⟩ := hreturns (isReady_of_isTyped loaders_isTyped)
  obtain ⟨hreport, hmade⟩ := hruns s₁ r₁ s₂ r₂ h₁ h₂
  obtain ⟨bs₁, bs₂, hm₁, hm₂, hsame, -⟩ := hmade (fun _ => rfl) rfl
  refine ⟨h, s₁, r₁, s₂, r₂, bs₁, bs₂, h₁, h₂, hreport, hm₁, hm₂, hsame, ?_, ?_⟩
  · rw [(emit_report h₁).1]
    decide
  · rw [(emit_report h₂).1]
    decide

end CommandLine

end ScriptGlue

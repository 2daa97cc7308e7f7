import Mathlib.Data.Fintype.Card
import Mathlib.Data.Set.Finite.Basic
import ScriptGlue.Proofs.Gathered
import ScriptGlue.Proofs.Lineage
import ScriptGlue.Proofs.Lookup

namespace ScriptGlue

theorem filter_mergeSort {α : Type} {le : α → α → Bool} {p : α → Bool} {xs : List α}
    (htrans : ∀ a b c, le a b = true → le b c = true → le a c = true)
    (htotal : ∀ a b, (le a b || le b a) = true)
    (h : (xs.filter p).Pairwise fun a b => le a b = true) :
    (xs.mergeSort le).filter p = xs.filter p := by
  have hsub : (xs.filter p).Sublist (xs.mergeSort le) :=
    List.sublist_mergeSort htrans htotal h List.filter_sublist
  have hsub := hsub.filter p
  simp only [List.filter_filter, Bool.and_self] at hsub
  have hlength := ((List.mergeSort_perm xs le).filter p).length_eq
  exact (hsub.eq_of_length hlength.symm).symm

theorem exists_of_rel_some_left {α β : Type} {R : α → β → Prop} {a : α} {b? : Option β}
    (h : Option.Rel R (some a) b?) : ∃ b, b? = some b ∧ R a b := by
  cases h with
  | some h => exact ⟨_, rfl, h⟩

theorem exists_of_rel_some_right {α β : Type} {R : α → β → Prop} {a? : Option α} {b : β}
    (h : Option.Rel R a? (some b)) : ∃ a, a? = some a ∧ R a b := by
  cases h with
  | some h => exact ⟨_, rfl, h⟩

theorem key?_of_isText {a : Attribute} (h : a.isText = true) : a.key? = some (.text a.shown) := by
  cases a with
  | string s => rfl
  | _ => cases h

namespace Lineage

variable {ds cs ms : List ClassDecl} {d : ClassDecl} {name : String}

theorem IsAcyclic.induction (hac : IsAcyclic ds) {P : String → Prop}
    (h : ∀ name, (∀ base, IsBase ds name base → P base) → P name) (name : String) : P name := by
  let below (a b : { n // n ∈ ds.map (·.name.shown) }) : Prop :=
    Relation.TransGen (IsBase ds) b.1 a.1
  have : Finite { n // n ∈ ds.map (·.name.shown) } := (List.finite_toSet _).to_subtype
  have : IsTrans _ below := ⟨fun a b c hab hbc => hbc.trans hab⟩
  have : Std.Irrefl below := ⟨fun a ha => hac a.1 ha⟩
  have hwf : WellFounded below := Finite.wellFounded_of_trans_of_irrefl below
  have hunnamed (n : String) (hn : n ∉ ds.map (·.name.shown)) : P n := by
    refine h n fun base hb => ?_
    obtain ⟨d, hd, rfl, -⟩ := hb
    exact absurd (List.mem_map_of_mem hd) hn
  have hnamed (n : { n // n ∈ ds.map (·.name.shown) }) : P n.1 := by
    refine hwf.induction n fun n ih => h n.1 fun base hb => ?_
    by_cases hbase : base ∈ ds.map (·.name.shown)
    · exact ih ⟨base, hbase⟩ (.single hb)
    · exact hunnamed base hbase
  by_cases hn : name ∈ ds.map (·.name.shown)
  · exact hnamed ⟨name, hn⟩
  · exact hunnamed name hn

def first? (ds : List ClassDecl) (name : String) : Option ClassDecl :=
  ds.find? fun d => d.name.shown = name

def last? (ds : List ClassDecl) (name : String) : Option ClassDecl :=
  ds.reverse.find? fun d => d.name.shown = name

theorem name_of_first? (h : first? ds name = some d) : d.name.shown = name := by
  have hd := List.find?_some h
  exact of_decide_eq_true hd

theorem isSome_first? : (first? ds name).isSome = true ↔ ∃ d ∈ ds, d.name.shown = name := by
  simp [first?]

theorem isSome_last? : (last? ds name).isSome = true ↔ ∃ d ∈ ds, d.name.shown = name := by
  simp [last?]

theorem exists_mem_of_first? (h : first? ds name = some d) : ∃ d ∈ ds, d.name.shown = name :=
  isSome_first?.1 (Option.isSome_iff_exists.2 ⟨d, h⟩)

theorem exists_mem_of_last? (h : last? ds name = some d) : ∃ d ∈ ds, d.name.shown = name :=
  isSome_last?.1 (Option.isSome_iff_exists.2 ⟨d, h⟩)

theorem get?_byName (ds : List ClassDecl) (name : String) :
    (byName ds).get? name = last? ds name := by
  rw [byName, Table.get?_ofList, ← List.map_reverse, last?]
  generalize ds.reverse = es
  induction es with
  | nil => rfl
  | cons e es ih =>
    rw [List.map_cons, Table.lookup_entry, List.find?_cons, ih]
    by_cases he : name = e.name.shown
    · simp [he]
    · simp [he, Ne.symm he]

theorem first?_resolve (ds : List ClassDecl) (name : String) :
    first? (resolve ds) name = first? (marked ds) name := by
  rw [first?, first?, ← List.head?_filter, ← List.head?_filter]
  refine congrArg List.head? (filter_mergeSort le_name_trans le_name_total ?_)
  refine List.pairwise_of_forall_mem_list fun a ha b hb => decide_eq_true ?_
  have ha : a.name.shown = name := of_decide_eq_true (List.mem_filter.1 ha).2
  have hb : b.name.shown = name := of_decide_eq_true (List.mem_filter.1 hb).2
  exact ha.trans hb.symm ▸ String.le_refl a.name.shown

theorem first?_isMarked (h : List.Forall₂ (IsMarked ds) cs ms) :
    Option.Rel (IsMarked ds) (first? cs name) (first? ms name) := by
  induction h with
  | nil => exact .none
  | @cons c m cs ms hm hs ih =>
    rw [first?, first?, List.find?_cons, List.find?_cons, hm.name_eq]
    cases decide (c.name.shown = name) with
    | true => exact .some hm
    | false => exact ih

theorem marked_isMarked_byName (ds : List ClassDecl) :
    List.Forall₂ (IsMarked (byName ds).values) ds (marked ds) :=
  (marks_marked ds).isMarked (indexes_byName ds) remembers_empty

theorem leadsToRoot_byName_iff : LeadsToRoot (byName ds).values name ↔
    name = root ∨ ∃ d, last? ds name = some d ∧
      ∃ base ∈ d.bases.map (·.shown), LeadsToRoot (byName ds).values base := by
  have hi := indexes_byName ds name
  rw [get?_byName] at hi
  rw [leadsToRoot_iff]
  refine or_congr_right ⟨?_, ?_⟩
  · rintro ⟨base, ⟨d, hd, hn, hb⟩, hl⟩
    exact ⟨d, (hi d).2 ⟨hd, hn⟩, base, hb, hl⟩
  · rintro ⟨d, hd, base, hb, hl⟩
    obtain ⟨hd, hn⟩ := (hi d).1 hd
    exact ⟨base, ⟨d, hd, hn, hb⟩, hl⟩

end Lineage

namespace Catalog

open Lineage

def HasBase (k : Catalog) (name base : String) : Prop :=
  ∃ d, k.class? name = some d ∧ base ∈ d.bases.map (·.shown)

def LeadsToRoot (k : Catalog) (name : String) : Prop :=
  Relation.ReflTransGen k.HasBase name root

/-- A base of the class leads to the root, through the classes that are kept. -/
def Inherits (k : Catalog) (d : ClassDecl) : Prop :=
  ∃ base ∈ d.bases.map (·.shown), k.LeadsToRoot base

/-- The mark of each class that is kept says what its own bases say. -/
def MarksOwn (k : Catalog) : Prop :=
  ∀ (name : String) d, k.class? name = some d →
    (d.isRefCounted = true ↔ name = root ∨ k.Inherits d)

/-- Of each name the first and the last class that was collected inherit alike. -/
def InheritsAlike (k : Catalog) (ds : List ClassDecl) : Prop :=
  ∀ name first last, name ≠ root → first? ds name = some first → last? ds name = some last →
    (k.Inherits first ↔ k.Inherits last)

/-- The catalog keeps the first class of each name, but for the mark it got. -/
def KeepsFirst (k : Catalog) (ds : List ClassDecl) : Prop :=
  ∀ name, Option.Rel (IsMarked (byName ds).values) (first? ds name) (k.class? name)

variable {k : Catalog} {ds : List ClassDecl} {name : String} {d : ClassDecl}

theorem leadsToRoot_iff :
    k.LeadsToRoot name ↔ name = root ∨ ∃ d, k.class? name = some d ∧ k.Inherits d := by
  constructor
  · intro h
    rcases Relation.ReflTransGen.cases_head h with rfl | ⟨base, ⟨d, hd, hb⟩, h⟩
    · exact .inl rfl
    · exact .inr ⟨d, hd, base, hb, h⟩
  · rintro (rfl | ⟨d, hd, base, hb, h⟩)
    · exact .refl
    · exact .head ⟨d, hd, hb⟩ h

theorem leadsToRoot_iff_of_class? (hd : k.class? name = some d) :
    k.LeadsToRoot name ↔ name = root ∨ k.Inherits d := by
  rw [leadsToRoot_iff, hd]
  simp

theorem Inherits.of_isMarked {c m : ClassDecl} (h : IsMarked ds c m) :
    k.Inherits m ↔ k.Inherits c := by
  rw [h.same]
  exact Iff.rfl

namespace KeepsFirst

theorem exists_first? (hk : k.KeepsFirst ds) (hd : k.class? name = some d) :
    ∃ first, first? ds name = some first ∧ IsMarked (byName ds).values first d := by
  have hrel := hk name
  rw [hd] at hrel
  exact exists_of_rel_some_right hrel

theorem exists_class? (hk : k.KeepsFirst ds) (hn : ∃ d ∈ ds, d.name.shown = name) :
    ∃ first d, first? ds name = some first ∧ k.class? name = some d ∧
      IsMarked (byName ds).values first d := by
  obtain ⟨first, hfirst⟩ := Option.isSome_iff_exists.1 (isSome_first?.2 hn)
  have hrel := hk name
  rw [hfirst] at hrel
  obtain ⟨d, hd, hm⟩ := exists_of_rel_some_left hrel
  exact ⟨first, d, hfirst, hd, hm⟩

theorem isRefCounted_iff (hk : k.KeepsFirst ds) (hac : IsAcyclic (byName ds).values)
    (hd : k.class? name = some d) :
    d.isRefCounted = true ↔ Lineage.LeadsToRoot (byName ds).values name := by
  obtain ⟨first, hfirst, hm⟩ := hk.exists_first? hd
  rw [← name_of_first? hfirst]
  exact ⟨hm.sound, hm.complete hac⟩

theorem leadsToRoot_of_byName (hk : k.KeepsFirst ds) (ha : k.InheritsAlike ds)
    (h : Lineage.LeadsToRoot (byName ds).values name) : k.LeadsToRoot name := by
  induction h using Relation.ReflTransGen.head_induction_on with
  | refl => exact .refl
  | @head name base hb h ih =>
    by_cases hr : name = root
    · rw [hr]
      exact .refl
    obtain ⟨last, hlast, hn, hb⟩ := hb
    have hlast : last? ds name = some last := by
      rw [← get?_byName]
      exact (indexes_byName ds name last).2 ⟨hlast, hn⟩
    obtain ⟨first, d, hfirst, hd, hm⟩ := hk.exists_class? (exists_mem_of_last? hlast)
    have hinherits : k.Inherits first := (ha name first last hr hfirst hlast).2 ⟨base, hb, ih⟩
    exact leadsToRoot_iff.2 (.inr ⟨d, hd, (Inherits.of_isMarked hm).2 hinherits⟩)

/-- The base by which the last class inherits need not be one of the first, so the induction is on
all bases of the last classes. -/
theorem byName_of_leadsToRoot (hk : k.KeepsFirst ds) (ha : k.InheritsAlike ds)
    (hac : IsAcyclic (byName ds).values) (h : k.LeadsToRoot name) :
    Lineage.LeadsToRoot (byName ds).values name := by
  induction name using hac.induction with
  | h name ih =>
    by_cases hr : name = root
    · rw [hr]
      exact .refl
    obtain hr' | ⟨d, hd, hinherits⟩ := leadsToRoot_iff.1 h
    · exact absurd hr' hr
    obtain ⟨first, hfirst, hm⟩ := hk.exists_first? hd
    obtain ⟨last, hlast⟩ :=
      Option.isSome_iff_exists.1 (isSome_last?.2 (exists_mem_of_first? hfirst))
    have hlasts : k.Inherits last :=
      (ha name first last hr hfirst hlast).1 ((Inherits.of_isMarked hm).1 hinherits)
    obtain ⟨base, hb, hl⟩ := hlasts
    have hbase : IsBase (byName ds).values name base := by
      rw [← get?_byName] at hlast
      obtain ⟨hmem, hn⟩ := (indexes_byName ds name last).1 hlast
      exact ⟨last, hmem, hn, hb⟩
    exact .head hbase (ih base hbase hl)

theorem marksOwn_of_inheritsAlike (hk : k.KeepsFirst ds) (hac : IsAcyclic (byName ds).values)
    (ha : k.InheritsAlike ds) : k.MarksOwn := by
  intro name d hd
  rw [hk.isRefCounted_iff hac hd, ← leadsToRoot_iff_of_class? hd]
  exact ⟨hk.leadsToRoot_of_byName ha, hk.byName_of_leadsToRoot ha hac⟩

/-- Where all marks say what the bases of the kept classes say, chains through the kept classes lead
where chains through the last ones do. -/
theorem leadsToRoot_iff_of_marksOwn (hk : k.KeepsFirst ds) (hac : IsAcyclic (byName ds).values)
    (hm : k.MarksOwn) :
    k.LeadsToRoot name ↔ Lineage.LeadsToRoot (byName ds).values name := by
  by_cases hn : ∃ d ∈ ds, d.name.shown = name
  · obtain ⟨first, d, -, hd, -⟩ := hk.exists_class? hn
    rw [leadsToRoot_iff_of_class? hd, ← hm name d hd, hk.isRefCounted_iff hac hd]
  · rw [leadsToRoot_iff, leadsToRoot_byName_iff]
    refine or_congr_right (iff_of_false ?_ ?_)
    · rintro ⟨d, hd, -⟩
      obtain ⟨first, hfirst, -⟩ := hk.exists_first? hd
      exact hn (exists_mem_of_first? hfirst)
    · rintro ⟨last, hlast, -⟩
      exact hn (exists_mem_of_last? hlast)

theorem inheritsAlike_of_marksOwn (hk : k.KeepsFirst ds) (hac : IsAcyclic (byName ds).values)
    (hm : k.MarksOwn) : k.InheritsAlike ds := by
  intro name first last hr hfirst hlast
  obtain ⟨first', d, hfirst', hd, hmark⟩ := hk.exists_class? (exists_mem_of_first? hfirst)
  rw [hfirst, Option.some.injEq] at hfirst'
  have hkept : k.Inherits first ↔ k.LeadsToRoot name := by
    rw [hfirst', ← Inherits.of_isMarked hmark, leadsToRoot_iff_of_class? hd, or_iff_right hr]
  have hlasts : k.Inherits last ↔ Lineage.LeadsToRoot (byName ds).values name := by
    rw [leadsToRoot_byName_iff, or_iff_right hr, hlast, Inherits]
    simp only [Option.some.injEq, exists_eq_left', hk.leadsToRoot_iff_of_marksOwn hac hm]
  rw [hkept, hlasts, hk.leadsToRoot_iff_of_marksOwn hac hm]

theorem marksOwn_iff (hk : k.KeepsFirst ds) (hac : IsAcyclic (byName ds).values) :
    k.MarksOwn ↔ k.InheritsAlike ds :=
  ⟨hk.inheritsAlike_of_marksOwn hac, hk.marksOwn_of_inheritsAlike hac⟩

end KeepsFirst

theorem keepsFirst_build {conventions : Conventions} {enums : List EnumDecl}
    {aliases : List AliasDecl} (h : ∀ d ∈ ds, d.name.isText = true) :
    (build conventions (Lineage.resolve ds) enums aliases).KeepsFirst ds := by
  intro name
  have hresolved : ∀ m ∈ Lineage.resolve ds, m.name.key? = some (.text m.name.shown) := by
    intro m hm
    obtain ⟨c, hc, b, rfl⟩ := exists_of_mem_resolve hm
    exact key?_of_isText (h c hc)
  have hclass : (build conventions (Lineage.resolve ds) enums aliases).class? name =
      first? (Lineage.resolve ds) name := by
    rw [class?_build, first?, ← List.head?_filter, ← List.head?_filter]
    refine congrArg List.head? (List.filter_congr fun m hm => ?_)
    rw [hresolved m hm]
    simp
  rw [hclass, first?_resolve]
  exact first?_isMarked (marked_isMarked_byName ds)

end Catalog

namespace Collection

open Lineage

variable {p : HeaderParser} {r : CollectionRules} {conventions : Conventions}
  {arguments : List String} {headers : List Path} {emitDiagnostics : Bool} {i : Inputs}
  {c : Collected}

theorem isText_of_foldlM_visit {units : List Cursor}
    (h : (units.foldlM (visit r) {}).outcome = .ok c) :
    ∀ d ∈ c.classes.values, d.name.isText = true := by
  intro d hd
  obtain ⟨⟨key, d⟩, he, rfl⟩ := List.mem_map.1 hd
  obtain ⟨u, -, n, -, hs⟩ := (holds_shownAt h).classes _ he
  obtain ⟨info, cs, above, -, -, hshown⟩ := CollectionRules.classDecl_of_mem_shownAt hs
  cases hshown
  rfl

/-- The catalog of a run keeps the first class of each name, and marks it if the bases of the last
one lead to the root. So each mark is that of the kept class itself exactly if, of all names but the
root's, the first class and the last one inherit alike. -/
theorem collect_marksOwn_iff
    (h : (collect p r conventions arguments headers emitDiagnostics).outcome = .ok i) : ∃ c,
      ((headers.map fun h => (p.parse h.text).cursor).foldlM (visit r) {}).outcome = .ok c ∧
      inputs conventions c = i ∧
      (IsAcyclic (byName c.classes.values).values →
        (∀ (name : String) d, i.catalog.class? name = some d →
          (∃ first, first? c.classes.values name = some first ∧
            d = { first with isRefCounted := d.isRefCounted }) ∧
          (d.isRefCounted = true ↔ LeadsToRoot (byName c.classes.values).values name)) ∧
        (i.catalog.MarksOwn ↔ i.catalog.InheritsAlike c.classes.values)) := by
  obtain ⟨c, hc, rfl⟩ := collect_eq_ok h
  have hkept : (inputs conventions c).catalog.KeepsFirst c.classes.values :=
    Catalog.keepsFirst_build (isText_of_foldlM_visit hc)
  refine ⟨c, hc, rfl, fun hac => ⟨fun name d hd => ⟨?_, ?_⟩, hkept.marksOwn_iff hac⟩⟩
  · obtain ⟨first, hfirst, hm⟩ := hkept.exists_first? hd
    exact ⟨first, hfirst, hm.same⟩
  · exact hkept.isRefCounted_iff hac hd

def rootBase : Cursor :=
  .node { kind := .baseSpecifier, spelling := "RefCounted", type := "RefCounted" } []

def itemNode (kind : CursorKind) (usr : String) (bases : List Cursor) : Cursor :=
  .node { kind, spelling := "Item", file? := some "/Item.h", usr } bases

/-- A structure with the bases, and in another namespace a class of the same name with the root as
its base. -/
def items (bases : List Cursor) : Cursor := .node { kind := .translationUnit } [
  .node { kind := .namespaceDecl, spelling := "Plain", file? := some "/Item.h" } [
    itemNode .structDecl "c:@N@Plain@S@Item" bases],
  .node { kind := .namespaceDecl, spelling := "Shared", file? := some "/Item.h" } [
    itemNode .classDecl "c:@N@Shared@S@Item" [rootBase]]]

def itemParser (bases : List Cursor) : HeaderParser where
  parse _ := { cursor := items bases }

def item (id : String) (bases : List Attribute) (isRefCounted : Bool := false) : ClassDecl :=
  { name := "Item", id, isRefCounted, header := "/Item.h", bases }

def itemClasses (bases : List Attribute) : List ClassDecl :=
  [item "c:@N@Plain@S@Item" bases, item "c:@N@Shared@S@Item" ["RefCounted"]]

def itemCollection (bases : List Attribute) : Collected where
  classes := ⟨["c:@N@Plain@S@Item", "c:@N@Shared@S@Item"].zip (itemClasses bases)⟩

theorem isAcyclic_itemClasses {bases : List Attribute} (h : "Item" ∉ bases.map (·.shown)) :
    IsAcyclic (itemClasses bases) := by
  refine isAcyclic_of_rank (fun name => if name = "Item" then 1 else 0) ?_
  refine List.forall_mem_cons.2 ⟨fun b hb => ?_, List.forall_mem_singleton.2 (by decide)⟩
  have hb : b.shown ≠ "Item" := fun hn => h (List.mem_map.2 ⟨b, hb, hn⟩)
  rw [if_neg hb]
  exact Nat.one_pos

theorem resolve_itemClasses (bases : List Attribute) : resolve (itemClasses bases) =
    [item "c:@N@Plain@S@Item" bases true, item "c:@N@Shared@S@Item" ["RefCounted"] true] := by
  have hsorted : (marked (itemClasses bases)).Pairwise fun a b =>
      decide (a.name.shown ≤ b.name.shown) = true :=
    List.pairwise_pair.2 (decide_eq_true (String.le_refl "Item"))
  exact List.mergeSort_of_pairwise hsorted

theorem class?_itemCollection (bases : List Attribute) :
    (inputs {} (itemCollection bases)).catalog.class? "Item" =
      some (item "c:@N@Plain@S@Item" bases true) := by
  have hvalues : (itemCollection bases).classes.values = itemClasses bases := rfl
  rw [inputs, hvalues, resolve_itemClasses]
  rfl

theorem visit_items_nil : ([items []].foldlM (visit {}) {}).outcome = .ok (itemCollection []) := rfl

theorem visit_items_rootBase :
    ([items [rootBase]].foldlM (visit {}) {}).outcome = .ok (itemCollection ["RefCounted"]) := rfl

/-- The kept class has no bases at all, and is marked. -/
theorem collect_marks_namesake :
    (collect (itemParser []) {} {} [] [⟨1, ["Item.h"]⟩]).outcome =
        .ok (inputs {} (itemCollection [])) ∧
      IsAcyclic (itemCollection []).classes.values ∧
      ¬(inputs {} (itemCollection [])).catalog.MarksOwn := by
  refine ⟨outcome_collect rfl rfl visit_items_nil,
    isAcyclic_itemClasses List.not_mem_nil, fun hm => ?_⟩
  obtain hr | ⟨base, hb, -⟩ := (hm "Item" _ (class?_itemCollection [])).1 rfl
  · exact absurd hr (by decide)
  · exact absurd hb List.not_mem_nil

/-- The structure has the root as its base as well. -/
theorem collect_marksOwn_items : ∃ i,
    (collect (itemParser [rootBase]) {} {} [] [⟨1, ["Item.h"]⟩]).outcome = .ok i ∧
      IsAcyclic (byName (itemClasses ["RefCounted"])).values ∧
      i.catalog.InheritsAlike (itemClasses ["RefCounted"]) ∧ i.catalog.MarksOwn := by
  have hrun : (collect (itemParser [rootBase]) {} {} [] [⟨1, ["Item.h"]⟩]).outcome = .ok _ :=
    outcome_collect rfl rfl visit_items_rootBase
  have hac : IsAcyclic (byName (itemClasses ["RefCounted"])).values :=
    (isAcyclic_itemClasses (by decide)).mono (values_byName_subset _)
  have hinherits (k : Catalog) (d : ClassDecl) (hd : d ∈ itemClasses ["RefCounted"]) :
      k.Inherits d := by
    rcases List.mem_pair.1 hd with rfl | rfl
    · exact ⟨root, List.mem_singleton_self root, .refl⟩
    · exact ⟨root, List.mem_singleton_self root, .refl⟩
  obtain ⟨c, hc, hi, hmarks⟩ := collect_marksOwn_iff hrun
  obtain rfl : c = itemCollection ["RefCounted"] :=
    Except.ok.inj (hc.symm.trans visit_items_rootBase)
  have halike : (inputs {} (itemCollection ["RefCounted"])).catalog.InheritsAlike
      (itemClasses ["RefCounted"]) := by
    intro name first last _ hfirst hlast
    have hlast : last ∈ itemClasses ["RefCounted"] :=
      List.mem_reverse.1 (List.mem_of_find?_eq_some hlast)
    exact iff_of_true (hinherits _ _ (List.mem_of_find?_eq_some hfirst)) (hinherits _ _ hlast)
  exact ⟨_, hrun, hac, halike, (hmarks hac).2.2 halike⟩

end Collection

end ScriptGlue

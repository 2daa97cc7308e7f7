import ScriptGlue.Catalog.Document
import ScriptGlue.Proofs.Table

namespace ScriptGlue

namespace Catalog

variable {α : Type} {conventions : Conventions} {classes : List ClassDecl} {enums : List EnumDecl}
  {aliases : List AliasDecl}

theorem class?_addClass (c : Catalog) (d : ClassDecl) (k : Key) :
    (c.addClass d).class? k =
      (c.class? k).or (if d.name.key? = some k then some d else none) := by
  rw [addClass]
  cases d.name.key? with
  | none => simp
  | some q =>
    have hnew : (c.classes.insertNew q d).get? k = (c.class? k).or _ :=
      c.classes.get?_insertNew q d k
    simp only [Option.some.injEq, eq_comm (a := q)]
    rw [← hnew]
    by_cases hc : c.classes.contains q
    · rw [if_pos hc, Table.insertNew_of_contains hc, class?]
    · rw [if_neg hc, class?]

theorem class?_foldl (c : Catalog) (ds : List ClassDecl) (k : Key) :
    (ds.foldl addClass c).class? k =
      (c.class? k).or (ds.find? fun d => d.name.key? = some k) := by
  induction ds generalizing c with
  | nil => rw [List.foldl_nil, List.find?_nil, Option.or_none]
  | cons d ds ih =>
    rw [List.foldl_cons, ih, class?_addClass, Option.or_assoc, List.find?_cons]
    by_cases hd : d.name.key? = some k <;> simp [hd]

theorem conventions_addClass (c : Catalog) (d : ClassDecl) :
    (c.addClass d).conventions = c.conventions := by
  rw [addClass]
  split
  · split
    · rfl
    · rfl
  · rfl

theorem conventions_build :
    (build conventions classes enums aliases).conventions = conventions := by
  suffices ∀ c : Catalog, (classes.foldl addClass c).conventions = c.conventions from
    this { conventions }
  induction classes with
  | nil => exact fun c => rfl
  | cons d ds ih => exact fun c => (ih _).trans (conventions_addClass c d)

theorem class?_build (k : Key) :
    (build conventions classes enums aliases).class? k =
      classes.find? fun d => d.name.key? = some k :=
  (class?_foldl { conventions } classes k).trans (Option.none_or)

theorem lookup_keyed (name : α → Attribute) (xs : List α) (k : Key) :
    (keyed name xs).lookup k = xs.find? fun x => (name x).key? = some k := by
  induction xs with
  | nil => rfl
  | cons x xs ih =>
    rw [List.find?_cons, ← ih, keyed, List.filterMap_cons]
    cases hx : (name x).key? with
    | none => simp [keyed]
    | some q =>
      rw [Option.map_some]
      simp only
      rw [Table.lookup_entry]
      by_cases hq : k = q <;> simp [hq, keyed, Ne.symm]

theorem get?_ofList_keyed (name : α → Attribute) (xs : List α) (k : Key) :
    (Table.ofList (keyed name xs)).get? k = xs.reverse.find? fun x => (name x).key? = some k := by
  rw [Table.get?_ofList, keyed, ← List.filterMap_reverse]
  exact lookup_keyed name xs.reverse k

theorem enum?_build (k : Key) :
    (build conventions classes enums aliases).enum? k =
      enums.reverse.find? fun e => e.name.key? = some k :=
  get?_ofList_keyed EnumDecl.name enums k

theorem isAlias_build (k : Key) :
    (build conventions classes enums aliases).isAlias k =
      aliases.any fun a => a.name.key? = some k := by
  have hget : (build conventions classes enums aliases).isAlias k = _ :=
    congrArg Option.isSome (get?_ofList_keyed AliasDecl.name aliases k)
  rw [hget, Bool.eq_iff_iff, List.find?_isSome, List.any_eq_true]
  simp only [List.mem_reverse]

end Catalog

def Json.isAmong (names : List String) (a : Json) : Bool :=
  names.any fun n => a.key? == some (.text n)

/-- The entries that stand under one of the names. -/
def CatalogEntries.under (e : CatalogEntries) (names : List String) : CatalogEntries where
  classes := e.classes.filter (·.name.isAmong names)
  enums := e.enums.filter (·.name.isAmong names)
  aliases := e.aliases.filter (·.name.isAmong names)

theorem find?_filter_isAmong {α : Type} {name : α → Attribute} {names : List String} {n : String}
    (hn : n ∈ names) (xs : List α) :
    (xs.filter fun x => (name x).isAmong names).find? (fun x => (name x).key? = some (.text n)) =
      xs.find? fun x => (name x).key? = some (.text n) := by
  rw [List.find?_filter]
  congr 1
  funext x
  rw [Bool.eq_iff_iff, decide_eq_true_eq, decide_eq_true_eq, and_iff_right_iff_imp]
  intro hx
  exact List.any_eq_true.2 ⟨n, hn, beq_iff_eq.2 hx⟩

namespace Catalog

/-- The second catalog has the conventions of the first, and the same recorded under each of the
names. -/
structure AgreesOn (c c' : Catalog) (names : List String) : Prop where
  conventions : c'.conventions = c.conventions
  class?_eq : ∀ name ∈ names, c'.class? name = c.class? name
  enum?_eq : ∀ name ∈ names, c'.enum? name = c.enum? name
  isAlias_eq : ∀ name ∈ names, c'.isAlias name = c.isAlias name

theorem AgreesOn.mono {c c' : Catalog} {names names' : List String} (h : c.AgreesOn c' names)
    (hs : names' ⊆ names) : c.AgreesOn c' names' where
  conventions := h.conventions
  class?_eq name hn := h.class?_eq name (hs hn)
  enum?_eq name hn := h.enum?_eq name (hs hn)
  isAlias_eq name hn := h.isAlias_eq name (hs hn)

end Catalog

theorem CatalogEntries.agreesOn_build {e e' : CatalogEntries} {names : List String}
    (h : e.under names = e'.under names) (conventions : Conventions) :
    (e.build conventions).AgreesOn (e'.build conventions) names where
  conventions := by
    rw [build, build, Catalog.conventions_build, Catalog.conventions_build]
  class?_eq n hn := by
    have hclasses := congrArg CatalogEntries.classes h
    rw [build, build, Catalog.class?_build, Catalog.class?_build, ← find?_filter_isAmong hn,
      ← find?_filter_isAmong hn e.classes]
    exact congrArg (List.find? _) hclasses.symm
  enum?_eq n hn := by
    have henums := congrArg CatalogEntries.enums h
    rw [build, build, Catalog.enum?_build, Catalog.enum?_build, ← find?_filter_isAmong hn,
      ← find?_filter_isAmong hn e.enums.reverse, List.filter_reverse, List.filter_reverse]
    exact congrArg (fun es => List.find? _ es.reverse) henums.symm
  isAlias_eq n hn := by
    have haliases := congrArg CatalogEntries.aliases h
    rw [build, build, Catalog.isAlias_build, Catalog.isAlias_build, ← List.isSome_find?,
      ← List.isSome_find?, ← find?_filter_isAmong hn, ← find?_filter_isAmong hn e.aliases]
    exact congrArg (fun as => (List.find? _ as).isSome) haliases.symm

end ScriptGlue

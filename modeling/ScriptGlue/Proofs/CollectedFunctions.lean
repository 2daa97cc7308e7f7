import ScriptGlue.Proofs.TokenSpacing
import ScriptGlue.Proofs.Visit
import ScriptGlue.Proofs.Walk

namespace ScriptGlue

namespace Spelling

theorem defaultValue?_total {tokens : List String} (h : "" ∉ tokens) :
    ∃ v?, defaultValue? tokens = some v? := by
  rw [defaultValue?]
  split
  · exact ⟨none, rfl⟩
  · rename_i before value hvalue
    have hne : "" ∉ value := by
      intro hm
      have hin : "" ∈ tokens.dropWhile (· != "=") := hvalue ▸ List.mem_cons_of_mem before hm
      exact h ((List.dropWhile_suffix _).subset hin)
    rw [joinTokens?_eq hne]
    exact ⟨_, rfl⟩

end Spelling

theorem mapM_total {α β : Type} {f : α → Option β} {xs : List α} (h : ∀ x ∈ xs, ∃ y, f x = some y) :
    ∃ ys, xs.mapM f = some ys := by
  induction xs with
  | nil => exact ⟨[], rfl⟩
  | cons x xs ih =>
    obtain ⟨hx, hxs⟩ := List.forall_mem_cons.1 h
    obtain ⟨y, hy⟩ := hx
    obtain ⟨ys, hys⟩ := ih hxs
    exact ⟨y :: ys, by rw [List.mapM_cons, hy, hys]; rfl⟩

theorem lookup_map_filter {α β κ : Type} [BEq κ] [LawfulBEq κ] (p : α → Bool) (key : α → κ)
    (value : α → β) (xs : List α) (k : κ) :
    ((xs.filter p).map fun x => (key x, value x)).lookup k =
      (xs.find? fun x => p x && key x == k).map value := by
  induction xs with
  | nil => rfl
  | cons x xs ih =>
    cases hp : p x with
    | false => rw [List.filter_cons, hp, List.find?_cons, hp]; exact ih
    | true =>
      rw [List.filter_cons, hp, if_pos rfl, List.map_cons, List.lookup_cons, List.find?_cons, hp,
        Bool.true_and, BEq.comm]
      cases key x == k with
      | true => rfl
      | false => exact ih

namespace NodePath

def functionOwner : NodePath → Attribute
  | c :: above => if c.info.kind = .method then .string (CollectionRules.ownerName above) else .null
  | [] => .null

def functionKind : NodePath → FunctionKind
  | c :: _ => if c.info.kind = .method then CollectionRules.methodKind c.info else .free
  | [] => .free

/-- The key of a function is its identity, or made from its names and its type if it has none. -/
def functionKey (n : NodePath) : String :=
  match n with
  | c :: _ =>
    if c.info.usr.isEmpty then
      n.functionOwner.shown ++ "::" ++ c.info.spelling ++ ":" ++ c.info.type
    else c.info.usr
  | [] => ""

def tokens : NodePath → List String
  | c :: _ => c.info.parameters.flatMap (·.tokens)
  | [] => []

end NodePath

namespace CollectionRules

variable (r : CollectionRules) {n : NodePath} {units : List Cursor}

/-- The node is a function to collect: a free one that is looked at, or a public method of a class
that is reached and not internal, with a name that is none of an operator. -/
def Offers : NodePath → Prop
  | [] => False
  | c :: above =>
    (c.info.spelling ≠ "" ∧ Text.startsWith c.info.spelling "operator" = false) ∧
      (c.info.kind = .functionDecl ∧ r.IsOutermost c.info above ∨
        c.info.kind = .method ∧ r.IsPublicMember c.info above)

instance : ∀ n, Decidable (r.Offers n)
  | [] => .isFalse id
  | _ :: _ => inferInstanceAs (Decidable ((_ ∧ _) ∧ (_ ∧ _ ∨ _ ∧ _)))

/-- The function that the node declares, if its default values can be read. -/
def functionAt? : NodePath → Option FunctionDecl
  | [] => none
  | n@(c :: _) => r.function? c.info (NodePath.functionOwner n) (NodePath.functionKind n)

variable {r}

theorem functionSightings_eq (i : CursorInfo) (owner : Attribute) (kind : FunctionKind) :
    (r.functionSightings i owner kind).filterMap Sighting.function? =
      if i.spelling ≠ "" ∧ Text.startsWith i.spelling "operator" = false then
        [(if i.usr.isEmpty then owner.shown ++ "::" ++ i.spelling ++ ":" ++ i.type else i.usr,
          r.function? i owner kind)]
      else [] := by
  rw [functionSightings]
  by_cases hn : i.spelling = ""
  · simp [hn]
  · cases ho : Text.startsWith i.spelling "operator" <;> simp [hn, Sighting.function?]

theorem function?_shownAt_of_ne {i : CursorInfo} {cs : List Cursor} {above : NodePath}
    (hf : i.kind ≠ .functionDecl) (hm : i.kind ≠ .method) :
    (r.shownAt (.node i cs :: above)).filterMap Sighting.function? = [] := by
  rw [shownAt, if_neg hf, if_neg hm]
  simp only [apply_ite (List.filterMap Sighting.function?), enumSightings, aliasSightings,
    fieldSightings, classSighting, List.filterMap_cons, List.filterMap_nil, Sighting.function?,
    ite_self]

theorem function?_shownAt (n : NodePath) : (r.shownAt n).filterMap Sighting.function? =
    if r.Offers n then [(n.functionKey, r.functionAt? n)] else [] := by
  cases n with
  | nil => rfl
  | cons c above =>
    obtain ⟨i, cs⟩ := c
    by_cases hf : i.kind = .functionDecl
    · by_cases hout : r.IsOutermost i above
      · simp [shownAt, Offers, NodePath.functionKey, functionAt?, NodePath.functionOwner,
          NodePath.functionKind, hf, CursorKind.isClass, Cursor.info, hout, functionSightings_eq]
      · simp [shownAt, Offers, hf, CursorKind.isClass, Cursor.info, hout]
    by_cases hm : i.kind = .method
    · by_cases hmember : r.IsPublicMember i above
      · simp [shownAt, Offers, NodePath.functionKey, functionAt?, NodePath.functionOwner,
          NodePath.functionKind, hm, CursorKind.isClass, Cursor.info, hmember, functionSightings_eq]
      · simp [shownAt, Offers, hm, CursorKind.isClass, Cursor.info, hmember]
    have hn : ¬r.Offers (.node i cs :: above) := fun h =>
      h.2.elim (fun h => hf h.1) (fun h => hm h.1)
    rw [function?_shownAt_of_ne hf hm, if_neg hn]

theorem functions_sightings (r : CollectionRules) (units : List Cursor) :
    (units.flatMap r.sightings).filterMap Sighting.function? =
      ((units.flatMap Cursor.paths).filter fun n => r.Offers n).map fun n =>
        (n.functionKey, r.functionAt? n) := by
  have hwalk : units.flatMap r.sightings = (units.flatMap Cursor.paths).flatMap r.shownAt := by
    rw [List.flatMap_assoc]
    exact List.flatMap_congr fun u _ => sightings_eq r u
  rw [hwalk]
  induction units.flatMap Cursor.paths with
  | nil => rfl
  | cons n ns ih =>
    rw [List.flatMap_cons, List.filterMap_append, ih, function?_shownAt, List.filter_cons]
    by_cases hn : r.Offers n <;> simp [hn]

theorem functionAt?_total (hn : r.Offers n) (h : "" ∉ n.tokens) :
    ∃ f, r.functionAt? n = some f := by
  cases n with
  | nil => exact hn.elim
  | cons c above =>
    have hparameters : ∀ p ∈ c.info.parameters.zipIdx 1, ∃ q, r.parameter? p.1 p.2 = some q := by
      intro p hp
      have htokens : "" ∉ p.1.tokens := fun hm =>
        h (List.mem_flatMap.2 ⟨p.1, List.fst_mem_of_mem_zipIdx hp, hm⟩)
      obtain ⟨v?, hv⟩ := Spelling.defaultValue?_total htokens
      rw [parameter?, hv]
      exact ⟨_, rfl⟩
    obtain ⟨ps, hps⟩ := mapM_total hparameters
    rw [functionAt?, function?, hps]
    exact ⟨_, rfl⟩

/-- The node offers a function with the key, and no node before it does. -/
def IsFirstOffer (r : CollectionRules) (key : String) (ns : List NodePath) (n : NodePath) : Prop :=
  (r.Offers n ∧ n.functionKey = key) ∧
    ∃ before after, ns = before ++ n :: after ∧
      ∀ m ∈ before, r.Offers m → m.functionKey ≠ key

theorem isFirstOffer_iff {key : String} {ns : List NodePath} : r.IsFirstOffer key ns n ↔
    ns.find? (fun n => decide (r.Offers n) && n.functionKey == key) = some n := by
  rw [List.find?_eq_some_iff_append, IsFirstOffer]
  simp only [Bool.and_eq_true, decide_eq_true_eq, beq_iff_eq, Bool.not_eq_true',
    Bool.and_eq_false_imp, beq_eq_false_iff_ne]

/-- A function to collect has an empty token, which no parser of C++ gives. -/
def MeetsEmptyToken (r : CollectionRules) (units : List Cursor) : Prop :=
  ∃ n ∈ units.flatMap Cursor.paths, r.Offers n ∧ "" ∈ n.tokens

end CollectionRules

namespace Collection

variable {r : CollectionRules} {units : List Cursor} {c : Collected} {key : String}

theorem visit_ends (r : CollectionRules) (units : List Cursor) :
    (∃ c, (units.foldlM (visit r) {}).outcome = .ok c) ∨
      (units.foldlM (visit r) {}).outcome = .error .emptyToken ∧ r.MeetsEmptyToken units := by
  rw [foldlM_visit]
  refine (Collected.fold_ends {} (units.flatMap r.sightings)).imp id fun ⟨he, key, hkey⟩ => ⟨he, ?_⟩
  have hmem : (key, none) ∈ (units.flatMap r.sightings).filterMap Sighting.function? :=
    List.mem_filterMap.2 ⟨_, hkey, rfl⟩
  rw [CollectionRules.functions_sightings, List.mem_map] at hmem
  obtain ⟨n, hn, heq⟩ := hmem
  obtain ⟨hn, hoffers⟩ := List.mem_filter.1 hn
  have hoffers : r.Offers n := of_decide_eq_true hoffers
  refine ⟨n, hn, hoffers, by_contra fun htokens => ?_⟩
  obtain ⟨f, hf⟩ := CollectionRules.functionAt?_total hoffers htokens
  rw [(Prod.mk.inj heq).2] at hf
  cases hf

theorem mem_keys_functions (h : (units.foldlM (visit r) {}).outcome = .ok c) :
    key ∈ c.functions.keys ↔
      ∃ n ∈ units.flatMap Cursor.paths, r.Offers n ∧ n.functionKey = key := by
  rw [foldlM_visit] at h
  have hkeys : key ∈ c.keys .functions ↔ _ := Collected.mem_keys_of_fold h
  have hplaces : (∃ s ∈ units.flatMap r.sightings, s.place? = some (.functions, key)) ↔
      ∃ e ∈ (units.flatMap r.sightings).filterMap Sighting.function?, e.1 = key := by
    simp only [Sighting.place?_eq_functions, List.mem_filterMap]
    constructor
    · rintro ⟨s, hs, f?, hf⟩
      exact ⟨(key, f?), ⟨s, hs, hf⟩, rfl⟩
    · rintro ⟨e, ⟨s, hs, he⟩, rfl⟩
      exact ⟨s, hs, e.2, he⟩
  rw [hplaces, CollectionRules.functions_sightings] at hkeys
  refine hkeys.trans ?_
  simp only [Collected.keys, Table.keys, List.map_nil, List.not_mem_nil, false_or, List.mem_map,
    List.mem_filter, decide_eq_true_eq, and_assoc]
  constructor
  · rintro ⟨_, ⟨n, hn, hoffers, rfl⟩, hkey⟩
    exact ⟨n, hn, hoffers, hkey⟩
  · rintro ⟨n, hn, hoffers, hkey⟩
    exact ⟨_, ⟨n, hn, hoffers, rfl⟩, hkey⟩

theorem get?_functions (h : (units.foldlM (visit r) {}).outcome = .ok c) :
    c.functions.get? key = ((units.flatMap Cursor.paths).find? fun n =>
      decide (r.Offers n) && n.functionKey == key).bind r.functionAt? := by
  rw [foldlM_visit] at h
  have hempty : ({} : Collected).functions.get? key = none := rfl
  rw [Collected.get?_functions_of_fold h, CollectionRules.functions_sightings,
    lookup_map_filter, hempty, Option.none_or]
  cases List.find? _ _ <;> rfl

/-- A collection has the functions that the nodes of the trees offer, and no others, and of those
with one key the one that is met first. -/
theorem visit_functions (r : CollectionRules) (units : List Cursor) :
    (∃ c, (units.foldlM (visit r) {}).outcome = .ok c ∧ ∀ key,
      (key ∈ c.functions.keys ↔
        ∃ n ∈ units.flatMap Cursor.paths, r.Offers n ∧ n.functionKey = key) ∧
      ∀ f, c.functions.get? key = some f ↔ ∃ n, r.functionAt? n = some f ∧
        r.IsFirstOffer key (units.flatMap Cursor.paths) n) ∨
    (units.foldlM (visit r) {}).outcome = .error .emptyToken ∧ r.MeetsEmptyToken units := by
  refine (visit_ends r units).imp_left fun ⟨c, hc⟩ => ⟨c, hc, fun key => ?_⟩
  refine ⟨mem_keys_functions hc, fun f => ?_⟩
  rw [get?_functions hc, Option.bind_eq_some_iff]
  refine exists_congr fun n => ?_
  rw [CollectionRules.isFirstOffer_iff, and_comm]

/-- Of three methods one is an operator and one is not public. -/
example :
    let c : Cursor := .node { kind := .classDecl, spelling := "Node", file? := some "/Node.h" } [
      .node { kind := .method, spelling := "Find", type := "void ()" } [],
      .node { kind := .method, spelling := "operator =", type := "void ()" } [],
      .node { kind := .method, spelling := "Hide", type := "void ()", isPublic := false } []]
    (visit {} {} (.node { kind := .translationUnit } [c])).outcome.toOption.map (·.functions.keys) =
      some ["Node::Find:void ()"] := by
  decide

end Collection

end ScriptGlue

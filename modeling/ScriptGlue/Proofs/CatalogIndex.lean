import Mathlib.Data.List.Induction
import ScriptGlue.Proofs.Grouping
import ScriptGlue.Proofs.Lookup

namespace ScriptGlue

theorem Json.toJson_of_key? {a : Json} {k : Key} (h : a.key? = some k) : k.toJson = a := by
  cases a with
  | null | bool b | integer n | float x | string s =>
    cases h
    rfl
  | array xs | object ms => cases h

theorem Table.keys_ofList {κ : Type u} {α : Type v} [BEq κ] [LawfulBEq κ] [DecidableEq κ]
    (es : List (κ × α)) : (ofList es).keys = (es.map (·.1)).eraseDups := by
  induction es using List.reverseRecOn with
  | nil => rfl
  | append_singleton es e ih =>
    have hlast : ofList (es ++ [e]) = (ofList es).put e.1 e.2 := by
      rw [ofList, List.foldl_append]
      rfl
    have hmem : (ofList es).contains e.1 = true ↔ e.1 ∈ es.map (·.1) := by
      rw [contains_iff_mem_keys, ih, List.mem_eraseDups]
    rw [hlast, keys_put, List.map_append, List.map_singleton, eraseDups_concat, ih]
    simp only [hmem]

namespace Catalog

variable {c : Catalog} {ds : List ClassDecl} {d x : ClassDecl} {n : Nat} {i k : Key}
  {conventions : Conventions}

/-- The class stands at the place in the list, and is the first of its name. -/
structure IsKept (ds : List ClassDecl) (n : Nat) (d : ClassDecl) : Prop where
  place : ds[n]? = some d
  named : d.name.key?.isSome = true
  first : ∀ m e, m < n → ds[m]? = some e → e.name.key? ≠ d.name.key?

/-- The class could stand after the list and be the first of its name. -/
structure IsNew (ds : List ClassDecl) (d : ClassDecl) : Prop where
  named : d.name.key?.isSome = true
  first : ∀ e ∈ ds, e.name.key? ≠ d.name.key?

theorem IsKept.lt_length (h : IsKept ds n d) : n < ds.length :=
  (List.getElem?_eq_some_iff.1 h.place).1

theorem isKept_concat :
    IsKept (ds ++ [x]) n d ↔ IsKept ds n d ∨ n = ds.length ∧ d = x ∧ IsNew ds x := by
  have hbefore {m : Nat} (hm : m < ds.length) : (ds ++ [x])[m]? = ds[m]? :=
    List.getElem?_append_left hm
  constructor
  · intro h
    have hn : n < ds.length ∨ n = ds.length := by
      have hlt := h.lt_length
      rw [List.length_append, List.length_singleton] at hlt
      omega
    rcases hn with hn | rfl
    · refine .inl ⟨(hbefore hn) ▸ h.place, h.named, ?_⟩
      intro m e hm he
      exact h.first m e hm ((hbefore (Nat.lt_trans hm hn)).trans he)
    · have hx : d = x := by simpa using h.place.symm
      subst hx
      refine .inr ⟨rfl, rfl, h.named, ?_⟩
      intro e he
      obtain ⟨m, hm⟩ := List.mem_iff_getElem?.1 he
      have hlt := (List.getElem?_eq_some_iff.1 hm).1
      exact h.first m e hlt ((hbefore hlt).trans hm)
  · rintro (h | ⟨rfl, rfl, h⟩)
    · refine ⟨(hbefore h.lt_length).trans h.place, h.named, ?_⟩
      intro m e hm he
      exact h.first m e hm ((hbefore (Nat.lt_trans hm h.lt_length)).symm.trans he)
    · refine ⟨List.getElem?_concat_length, h.named, ?_⟩
      intro m e hm he
      exact h.first e (List.mem_of_getElem? ((hbefore hm).symm.trans he))

theorem IsKept.class?_build {enums : List EnumDecl} {aliases : List AliasDecl} (h : IsKept ds n d)
    (hk : d.name.key? = some k) : (build conventions ds enums aliases).class? k = some d := by
  obtain ⟨hn, hd⟩ := List.getElem?_eq_some_iff.1 h.place
  rw [Catalog.class?_build, List.find?_eq_some_iff_getElem]
  refine ⟨decide_eq_true hk, n, hn, hd, ?_⟩
  intro m hm
  have hne := h.first m _ hm (List.getElem?_eq_getElem (Nat.lt_trans hm hn))
  rw [hk] at hne
  simp [hne]

theorem classById?_addClass_of_new (hk : d.name.key? = some k) (hc : c.class? k = none) :
    (c.addClass d).classById? i =
      if d.id.key? = some i ∧ d.id.isTruthy = true then some d else c.classById? i := by
  have hnew : c.classes.contains k = false := by
    rw [Table.contains, ← class?, hc]
    rfl
  have hadd : (c.addClass d).identities = identify c.identities d := by
    rw [addClass, hk]
    simp only [hnew, Bool.false_eq_true, ↓reduceIte]
  rw [classById?, hadd, identify]
  cases hid : d.id.key? with
  | none => simp [classById?]
  | some q =>
    cases d.id.isTruthy with
    | false => simp [classById?]
    | true => simp [classById?, Table.get?_put, eq_comm]

theorem addClass_of_not_new (h : ∀ k, d.name.key? = some k → c.class? k ≠ none) :
    c.addClass d = c := by
  rw [addClass]
  cases hk : d.name.key? with
  | none => rfl
  | some k =>
    have hc : c.classes.contains k = true := by
      rw [Table.contains, ← class?]
      exact Option.isSome_iff_ne_none.2 (h k hk)
    simp only [hc, ↓reduceIte]

theorem class?_foldl_eq_none_iff (conventions : Conventions) :
    (ds.foldl addClass { conventions }).class? k = none ↔ ∀ e ∈ ds, e.name.key? ≠ some k := by
  rw [class?_foldl, Option.or_eq_none_iff, List.find?_eq_none]
  simp [class?, Table.get?]

/-- The class is kept, and no later one with the identity is. -/
def IsIdentified (ds : List ClassDecl) (i : Key) (d : ClassDecl) : Prop :=
  i.toJson.isTruthy = true ∧ ∃ n, IsKept ds n d ∧ d.id.key? = some i ∧
    ∀ m e, n < m → IsKept ds m e → e.id.key? ≠ some i

theorem isIdentified_concat_of_new (hnew : IsNew ds x) (hid : x.id.key? = some i)
    (ht : x.id.isTruthy = true) : IsIdentified (ds ++ [x]) i d ↔ d = x := by
  rw [IsIdentified]
  simp only [isKept_concat]
  constructor
  · rintro ⟨-, n, h | ⟨-, hd, -⟩, -, hlater⟩
    · exact absurd hid (hlater ds.length x h.lt_length (.inr ⟨rfl, rfl, hnew⟩))
    · exact hd
  · rintro rfl
    rw [← Json.toJson_of_key? hid] at ht
    refine ⟨ht, ds.length, .inr ⟨rfl, rfl, hnew⟩, hid, ?_⟩
    rintro m e hm (h | ⟨rfl, -, -⟩)
    · exact absurd h.lt_length (Nat.lt_asymm hm)
    · exact absurd hm (Nat.lt_irrefl _)

theorem isIdentified_concat_of_not
    (hx : IsNew ds x → ¬(x.id.key? = some i ∧ x.id.isTruthy = true)) :
    IsIdentified (ds ++ [x]) i d ↔ IsIdentified ds i d := by
  rw [IsIdentified, IsIdentified]
  simp only [isKept_concat]
  refine and_congr_right fun ht => exists_congr fun n => ?_
  have hother : IsNew ds x → x.id.key? ≠ some i := by
    intro hnew hid
    rw [Json.toJson_of_key? hid] at ht
    exact hx hnew ⟨hid, ht⟩
  constructor
  · rintro ⟨h | ⟨-, rfl, hnew⟩, hid, hlater⟩
    · exact ⟨h, hid, fun m e hm he => hlater m e hm (.inl he)⟩
    · exact absurd hid (hother hnew)
  · rintro ⟨h, hid, hlater⟩
    refine ⟨.inl h, hid, ?_⟩
    rintro m e hm (he | ⟨-, rfl, hnew⟩)
    · exact hlater m e hm he
    · exact hother hnew

/-- Of the classes that are kept the last one of an identity is found by it. By induction from the
end of the list: what is kept of it does not depend on what comes after. -/
theorem classById?_foldl (conventions : Conventions) (ds : List ClassDecl) :
    (ds.foldl addClass { conventions }).classById? i = some d ↔ IsIdentified ds i d := by
  induction ds using List.reverseRecOn with
  | nil =>
    refine iff_of_false (by simp [classById?, Table.get?]) ?_
    rintro ⟨-, n, h, -⟩
    exact absurd h.lt_length (Nat.not_lt_zero n)
  | append_singleton ds x ih =>
    rw [List.foldl_append, List.foldl_cons, List.foldl_nil]
    by_cases hnew : IsNew ds x
    · obtain ⟨k, hk⟩ := Option.isSome_iff_exists.1 hnew.named
      have hc := (class?_foldl_eq_none_iff conventions).2 (hk ▸ hnew.first)
      rw [classById?_addClass_of_new hk hc]
      split
      · rename_i hid
        rw [isIdentified_concat_of_new hnew hid.1 hid.2, Option.some.injEq, eq_comm]
      · rename_i hid
        rw [isIdentified_concat_of_not fun _ => hid, ih]
    · rw [isIdentified_concat_of_not fun h => absurd h hnew, addClass_of_not_new, ih]
      intro k hk hc
      rw [class?_foldl_eq_none_iff] at hc
      exact hnew ⟨Option.isSome_iff_exists.2 ⟨k, hk⟩, hk ▸ hc⟩

/-- What the lookups of a catalog find, for the entries that it is built from. -/
structure Finds (c : Catalog) (classes : List ClassDecl) (enums : List EnumDecl)
    (aliases : List AliasDecl) : Prop where
  class?_eq : ∀ k, c.class? k = classes.find? fun d => d.name.key? = some k
  /-- A class that an earlier one of its name shadows is not found. -/
  kept_of_classById? : ∀ i d, c.classById? i = some d →
    i.toJson.isTruthy = true ∧ d.id.key? = some i ∧ (∃ n, IsKept classes n d) ∧
      ∃ k, d.name.key? = some k ∧ c.class? k = some d
  classById?_of_kept : ∀ n d i, IsKept classes n d → i.toJson.isTruthy = true →
    d.id.key? = some i → (∀ m e, n < m → IsKept classes m e → e.id.key? ≠ some i) →
      c.classById? i = some d
  enum?_eq : ∀ k, c.enum? k = enums.reverse.find? fun e => e.name.key? = some k
  enum_keys : c.enums.keys = (enums.filterMap (·.name.key?)).eraseDups
  alias?_eq : ∀ k, c.aliases.get? k = aliases.reverse.find? fun a => a.name.key? = some k
  alias_keys : c.aliases.keys = (aliases.filterMap (·.name.key?)).eraseDups

theorem keys_ofList_keyed {α : Type} (name : α → Attribute) (xs : List α) :
    (Table.ofList (keyed name xs)).keys = (xs.filterMap fun x => (name x).key?).eraseDups := by
  rw [Table.keys_ofList, keyed, List.map_filterMap]
  simp only [Option.map_map, Function.comp_def, Option.map_id']

/-- By name the first class is found, and by identity the last one of those; an enumeration or an
alias is the last of its name, and listed where the first one stands. -/
theorem build_finds (conventions : Conventions) (classes : List ClassDecl) (enums : List EnumDecl)
    (aliases : List AliasDecl) :
    (build conventions classes enums aliases).Finds classes enums aliases where
  class?_eq := class?_build
  kept_of_classById? i d h := by
    obtain ⟨ht, n, hkept, hid, -⟩ := (classById?_foldl conventions classes).1 h
    obtain ⟨k, hk⟩ := Option.isSome_iff_exists.1 hkept.named
    exact ⟨ht, hid, ⟨n, hkept⟩, k, hk, hkept.class?_build hk⟩
  classById?_of_kept n d i hkept ht hid hlater :=
    (classById?_foldl conventions classes).2 ⟨ht, n, hkept, hid, hlater⟩
  enum?_eq := enum?_build
  enum_keys := keys_ofList_keyed EnumDecl.name enums
  alias?_eq := get?_ofList_keyed AliasDecl.name aliases
  alias_keys := keys_ofList_keyed AliasDecl.name aliases

end Catalog

end ScriptGlue

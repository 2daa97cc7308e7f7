import Mathlib.Data.List.Induction
import ScriptGlue.Catalog.Document
import ScriptGlue.Proofs.Table

namespace ScriptGlue

/-- A table can take the class: its name is a key, and its identity is one or is empty. -/
def ClassDecl.IsIndexable (d : ClassDecl) : Prop :=
  d.name.key?.isSome = true ∧ (d.id.key?.isSome = true ∨ d.id.isTruthy = false)

namespace CatalogEntries

variable {seen : List Key} {ds : List ClassDecl}

theorem indexable_of_forall (h : ∀ d ∈ ds, d.IsIndexable) : indexable seen ds = ds := by
  induction ds generalizing seen with
  | nil => rfl
  | cons d ds ih =>
    obtain ⟨⟨hname, hid⟩, hds⟩ := List.forall_mem_cons.1 h
    obtain ⟨k, hk⟩ := Option.isSome_iff_exists.1 hname
    have hid : (d.id.key?.isSome || !d.id.isTruthy) = true := by simpa using hid
    rw [indexable, hk]
    simp only [hid, if_true, ih hds, ite_self]

end CatalogEntries

namespace Catalog

variable {c : Catalog} {ds : List ClassDecl} {d : ClassDecl} {conventions : Conventions}

theorem addClass_cases (c : Catalog) (d : ClassDecl) :
    c.addClass d = c ∨
      (c.addClass d).classes.values = c.classes.values ++ [d] := by
  rw [addClass]
  split
  · rename_i k hk
    split
    · exact .inl rfl
    · rename_i hc
      refine .inr ?_
      simp [Table.insertNew, hc, Table.values]
  · exact .inl rfl

theorem foldl_addClass_values (conventions : Conventions) (ds : List ClassDecl) :
    (ds.foldl addClass { conventions }).classes.values.foldl addClass { conventions } =
      ds.foldl addClass { conventions } := by
  induction ds using List.reverseRecOn with
  | nil => rfl
  | append_singleton ds d ih =>
    rw [List.foldl_append, List.foldl_cons, List.foldl_nil]
    rcases addClass_cases (ds.foldl addClass { conventions }) d with h | h
    · rw [h]
      exact ih
    · rw [h, List.foldl_append, ih]
      rfl

theorem isIndexable_of_mem_foldl {seen : List Key}
    (hseen : ∀ k, seen.contains k = c.classes.contains k)
    (h : (CatalogEntries.indexable seen ds).length = ds.length)
    (hd : d ∈ (ds.foldl addClass c).classes.values) :
    d ∈ c.classes.values ∨ d.IsIndexable := by
  -- The names seen so far are the keys of the table, so both pass over the same classes.
  induction ds generalizing seen c with
  | nil => exact .inl hd
  | cons e ds ih =>
    rw [CatalogEntries.indexable] at h
    split at h
    · rename_i k hk
      split_ifs at h with hs hid
      · have hc : c.addClass e = c := by
          rw [addClass, hk]
          exact if_pos (hseen k ▸ hs)
        rw [List.foldl_cons, hc] at hd
        exact ih hseen (Nat.succ.inj h) hd
      · have hnew : ¬c.classes.contains k = true := hseen k ▸ hs
        have hc : (c.addClass e).classes = c.classes.insertNew k e := by
          rw [addClass, hk]
          exact congrArg classes (if_neg hnew)
        have hk' : ∀ q, (k :: seen).contains q = (c.addClass e).classes.contains q := by
          intro q
          rw [hc, List.contains_cons, hseen, Bool.eq_iff_iff, Table.contains_iff_mem_keys,
            Table.mem_keys_insertNew, Bool.or_eq_true, beq_iff_eq, Table.contains_iff_mem_keys,
            or_comm]
        rcases ih hk' (Nat.succ.inj h) hd with hd | hd
        · rw [hc] at hd
          refine (Table.mem_values_of_insertNew hd).imp_right ?_
          rintro rfl
          exact ⟨Option.isSome_iff_exists.2 ⟨k, hk⟩, by simpa using hid⟩
        · exact .inr hd
    · cases h

variable {α : Type} {name : α → Attribute} {xs : List α}

theorem key?_of_mem_keyed {e : Key × α} (h : e ∈ keyed name xs) :
    (name e.2).key? = some e.1 := by
  obtain ⟨x, -, he⟩ := List.mem_filterMap.1 h
  obtain ⟨k, hk, rfl⟩ := Option.map_eq_some_iff.1 he
  exact hk

theorem keyed_values {t : Table Key α} (h : ∀ e ∈ t.entries, (name e.2).key? = some e.1) :
    keyed name t.values = t.entries := by
  rw [keyed, Table.values, List.filterMap_map]
  refine (List.filterMap_congr fun e he => ?_).trans List.filterMap_some
  rw [Function.comp_apply, h e he]
  rfl

theorem ofList_keyed_values (name : α → Attribute) (xs : List α) :
    Table.ofList (keyed name (Table.ofList (keyed name xs)).values) =
      Table.ofList (keyed name xs) := by
  rw [keyed_values fun e he => key?_of_mem_keyed (Table.mem_entries_of_ofList he),
    Table.ofList_entries (Table.nodup_keys_ofList _)]

theorem key?_isSome_of_mem_values {x : α} (h : x ∈ (Table.ofList (keyed name xs)).values) :
    (name x).key?.isSome = true := by
  obtain ⟨e, he, rfl⟩ := List.mem_map.1 h
  rw [key?_of_mem_keyed (Table.mem_entries_of_ofList he)]
  rfl

def entries (c : Catalog) : CatalogEntries where
  classes := c.classes.values
  enums := c.enums.values
  aliases := c.aliases.values

end Catalog

namespace CatalogEntries

variable {e : CatalogEntries}

theorem isIndexable_iff : e.isIndexable = true ↔
    ((indexable [] e.classes).length = e.classes.length ∧
      ∀ d ∈ e.enums, d.name.key?.isSome = true) ∧ ∀ a ∈ e.aliases, a.name.key?.isSome = true := by
  rw [isIndexable, Bool.and_eq_true, Bool.and_eq_true, beq_iff_eq, List.all_eq_true,
    List.all_eq_true]

theorem build_entries (e : CatalogEntries) (conventions : Conventions) :
    (e.build conventions).entries.build conventions = e.build conventions := by
  have hclasses := Catalog.foldl_addClass_values conventions e.classes
  have henums := Catalog.ofList_keyed_values EnumDecl.name e.enums
  have haliases := Catalog.ofList_keyed_values AliasDecl.name e.aliases
  simp only [build, Catalog.build, Catalog.entries, hclasses, henums, haliases]

theorem isIndexable_entries (h : e.isIndexable = true) (conventions : Conventions) :
    (e.build conventions).entries.isIndexable = true := by
  obtain ⟨⟨hclasses, -⟩, -⟩ := isIndexable_iff.1 h
  refine isIndexable_iff.2 ⟨⟨?_, ?_⟩, ?_⟩
  · rw [indexable_of_forall fun d hd => ?_]
    exact (Catalog.isIndexable_of_mem_foldl (fun _ => rfl) hclasses hd).resolve_left
      List.not_mem_nil
  · exact fun d hd => Catalog.key?_isSome_of_mem_values hd
  · exact fun a ha => Catalog.key?_isSome_of_mem_values ha

end CatalogEntries

end ScriptGlue

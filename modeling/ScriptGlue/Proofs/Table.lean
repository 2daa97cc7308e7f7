import Mathlib.Data.List.Nodup
import ScriptGlue.Table

namespace ScriptGlue.Table

variable {κ : Type u} {α : Type v} [BEq κ] {t : Table κ α} {k q : κ} {v : α}

theorem mem_entries_of_insertNew {e : κ × α} (h : e ∈ (t.insertNew k v).entries) :
    e ∈ t.entries ∨ e = (k, v) := by
  rw [insertNew] at h
  split at h
  · exact .inl h
  · simpa using h

theorem mem_values_of_insertNew {w : α} (h : w ∈ (t.insertNew k v).values) :
    w ∈ t.values ∨ w = v := by
  obtain ⟨e, he, rfl⟩ := List.mem_map.1 h
  exact (mem_entries_of_insertNew he).imp (List.mem_map_of_mem ·) (congrArg Prod.snd)

theorem mem_entries_of_put {e : κ × α} (h : e ∈ (t.put k v).entries) :
    e ∈ t.entries ∨ e = (k, v) := by
  rw [put] at h
  split at h
  · obtain ⟨d, hd, rfl⟩ := List.mem_map.1 h
    split
    · exact .inr rfl
    · exact .inl hd
  · simpa using h

theorem mem_entries_of_ofList {es : List (κ × α)} {e : κ × α}
    (h : e ∈ (ofList es).entries) : e ∈ es := by
  suffices ∀ t : Table κ α, e ∈ (es.foldl (fun t e => t.put e.1 e.2) t).entries →
      e ∈ t.entries ∨ e ∈ es from (this empty h).elim (absurd · List.not_mem_nil) id
  clear h
  induction es with
  | nil => exact fun t h => .inl h
  | cons d ds ih =>
    intro t h
    rcases ih _ h with h | h
    · refine (mem_entries_of_put h).imp id ?_
      rintro rfl
      exact List.mem_cons_self
    · exact .inr (List.mem_cons_of_mem d h)

theorem size_put_le : (t.put k v).size ≤ t.size + 1 := by
  rw [put]
  split <;> simp [size]

theorem size_ofList_le (es : List (κ × α)) : (ofList es).size ≤ es.length := by
  suffices ∀ t : Table κ α,
      (es.foldl (fun t e => t.put e.1 e.2) t).size ≤ t.size + es.length by
    have hsize := this empty
    rwa [show (empty : Table κ α).size = 0 from rfl, Nat.zero_add] at hsize
  induction es with
  | nil => exact fun t => Nat.le_refl _
  | cons e es ih =>
    intro t
    have hput : (t.put e.1 e.2).size ≤ t.size + 1 := size_put_le
    have hrest := ih (t.put e.1 e.2)
    rw [List.foldl_cons, List.length_cons]
    omega

section Lawful

variable [LawfulBEq κ]

theorem contains_iff_mem_keys : t.contains k = true ↔ k ∈ t.keys := by
  rw [contains, get?, List.lookup_isSome_iff, keys, List.mem_map]
  refine exists_congr fun e => and_congr_right fun _ => ?_
  rw [beq_iff_eq, eq_comm]

theorem mem_keys_insertNew : q ∈ (t.insertNew k v).keys ↔ q ∈ t.keys ∨ q = k := by
  rw [keys_insertNew]
  split
  · rename_i h
    refine ⟨.inl, fun hq => hq.elim id ?_⟩
    rintro rfl
    exact contains_iff_mem_keys.1 h
  · rw [List.mem_append, List.mem_singleton]

theorem put_of_not_mem (h : k ∉ t.keys) (v : α) : t.put k v = ⟨t.entries ++ [(k, v)]⟩ := by
  rw [put, if_neg (mt contains_iff_mem_keys.1 h)]

theorem ofList_entries (h : t.keys.Nodup) : ofList t.entries = t := by
  suffices ∀ (es : List (κ × α)) (s : Table κ α), ((s.entries ++ es).map (·.1)).Nodup →
      es.foldl (fun t e => t.put e.1 e.2) s = ⟨s.entries ++ es⟩ from this t.entries empty h
  intro es
  induction es with
  | nil => exact fun s _ => by rw [List.append_nil]; rfl
  | cons e es ih =>
    intro s hs
    have hk : e.1 ∉ s.keys := by
      rw [List.map_append, List.nodup_append] at hs
      exact fun hm => hs.2.2 _ hm _ List.mem_cons_self rfl
    rw [List.foldl_cons, put_of_not_mem hk, ih _ (by rwa [List.append_assoc]), List.append_assoc]
    rfl

theorem get?_eq_some_iff (h : t.keys.Nodup) : t.get? k = some v ↔ (k, v) ∈ t.entries := by
  rw [get?]
  rw [keys] at h
  generalize t.entries = es at h
  induction es with
  | nil => exact iff_of_false nofun List.not_mem_nil
  | cons e es ih =>
    obtain ⟨hk, hnodup⟩ := List.nodup_cons.1 h
    rw [List.lookup_cons, List.mem_cons]
    split
    · rename_i hke
      have hk' : (k, v) ∉ es := by
        intro hm
        exact hk (List.mem_map.2 ⟨(k, v), hm, eq_of_beq hke⟩)
      rw [or_iff_left hk', Option.some.injEq, Prod.ext_iff]
      exact ⟨fun hv => ⟨eq_of_beq hke, hv.symm⟩, fun hv => hv.2.symm⟩
    · rename_i hke
      have hne : (k, v) ≠ e := by
        rintro rfl
        exact absurd BEq.rfl (Bool.eq_false_iff.1 hke)
      rw [or_iff_right hne]
      exact ih hnodup

variable [DecidableEq κ]

theorem nodup_keys_put (h : t.keys.Nodup) (k : κ) (v : α) : (t.put k v).keys.Nodup := by
  rw [keys_put]
  split
  · exact h
  · rename_i hk
    rw [← List.concat_eq_append]
    exact h.concat (mt contains_iff_mem_keys.2 hk)

theorem nodup_keys_ofList (es : List (κ × α)) : (ofList es).keys.Nodup := by
  suffices ∀ t : Table κ α, t.keys.Nodup →
      (es.foldl (fun t e => t.put e.1 e.2) t).keys.Nodup from this empty List.nodup_nil
  induction es with
  | nil => exact fun t h => h
  | cons e es ih => exact fun t h => ih _ (nodup_keys_put h e.1 e.2)

end Lawful

end ScriptGlue.Table

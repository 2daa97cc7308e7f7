namespace ScriptGlue

structure Table (κ : Type u) (α : Type v) where
  entries : List (κ × α) := []

namespace Table

variable {κ : Type u} {α : Type v} {β : Type w}

instance : Inhabited (Table κ α) := ⟨⟨[]⟩⟩

def empty : Table κ α := ⟨[]⟩

section Keyed

variable [BEq κ]

def get? (t : Table κ α) (k : κ) : Option α := t.entries.lookup k

def contains (t : Table κ α) (k : κ) : Bool := (t.get? k).isSome

def keys (t : Table κ α) : List κ := t.entries.map (·.1)

def values (t : Table κ α) : List α := t.entries.map (·.2)

def size (t : Table κ α) : Nat := t.entries.length

/-- A key that is already there keeps its value. -/
def insertNew (t : Table κ α) (k : κ) (v : α) : Table κ α :=
  if t.contains k then t else ⟨t.entries ++ [(k, v)]⟩

/-- A key that is already there keeps its place and takes the new value. -/
def put (t : Table κ α) (k : κ) (v : α) : Table κ α :=
  if t.contains k then ⟨t.entries.map fun e => if e.1 == k then (k, v) else e⟩
  else ⟨t.entries ++ [(k, v)]⟩

/-- Later values win, at the place of the first. -/
def ofList (es : List (κ × α)) : Table κ α := es.foldl (fun t e => t.put e.1 e.2) empty

/-- Gathers the items under their keys, each group in the order of the list. -/
def groupBy (key : α → κ) (xs : List α) : Table κ (List α) :=
  xs.foldl (fun t x => t.put (key x) ((t.get? (key x)).getD [] ++ [x])) empty

theorem get?_empty (k : κ) : (empty : Table κ α).get? k = none := rfl

theorem insertNew_of_contains {t : Table κ α} {k : κ} (h : t.contains k) (v : α) :
    t.insertNew k v = t := by
  simp only [insertNew, h, ↓reduceIte]

theorem keys_insertNew (t : Table κ α) (k : κ) (v : α) :
    (t.insertNew k v).keys = if t.contains k then t.keys else t.keys ++ [k] := by
  unfold insertNew keys
  split <;> simp

end Keyed

variable [BEq κ] [LawfulBEq κ] [DecidableEq κ]

theorem lookup_entry (k q : κ) (v : α) (es : List (κ × α)) :
    ((k, v) :: es).lookup q = if q = k then some v else es.lookup q := by
  rw [List.lookup_cons]
  by_cases h : q = k
  · simp [h]
  · rw [beq_eq_false_iff_ne.2 h, if_neg h]

theorem lookup_replace (es : List (κ × α)) (k : κ) (v : α) (q : κ) :
    (es.map fun e => if e.1 = k then (k, v) else e).lookup q =
      if q = k then (es.lookup k).map fun _ => v else es.lookup q := by
  induction es with
  | nil => simp
  | cons e es ih =>
    obtain ⟨k', w⟩ := e
    rw [List.map_cons, lookup_entry k' q, lookup_entry k' k]
    by_cases hk : k' = k
    · subst k'
      rw [if_pos rfl, lookup_entry, ih]
      by_cases hq : q = k <;> simp [hq]
    · rw [if_neg hk, lookup_entry, ih, if_neg (Ne.symm hk)]
      by_cases hq : q = k
      · subst q
        rw [if_neg (Ne.symm hk), if_pos rfl, if_pos rfl]
      · rw [if_neg hq, if_neg hq]

theorem get?_put (t : Table κ α) (k : κ) (v : α) (q : κ) :
    (t.put k v).get? q = if q = k then some v else t.get? q := by
  unfold put contains get?
  split
  · rename_i h
    obtain ⟨w, hw⟩ := Option.isSome_iff_exists.1 h
    simp only [beq_iff_eq]
    rw [lookup_replace, hw, Option.map_some]
  · rename_i h
    rw [List.lookup_append, lookup_entry]
    by_cases hq : q = k
    · rw [hq, Option.not_isSome_iff_eq_none.1 h]
      simp
    · simp [hq]

theorem keys_put (t : Table κ α) (k : κ) (v : α) :
    (t.put k v).keys = if t.contains k then t.keys else t.keys ++ [k] := by
  unfold put keys
  split
  · rw [List.map_map]
    congr 1
    funext e
    by_cases h : e.1 = k <;> simp [h]
  · simp

theorem get?_ofList (es : List (κ × α)) (k : κ) :
    (ofList es).get? k = es.reverse.lookup k := by
  suffices ∀ t : Table κ α, (es.foldl (fun t e => t.put e.1 e.2) t).get? k =
      (es.reverse.lookup k).or (t.get? k) by
    rw [ofList, this, get?_empty, Option.or_none]
  intro t
  induction es generalizing t with
  | nil => rfl
  | cons e es ih =>
    rw [List.foldl_cons, ih, get?_put, List.reverse_cons, List.lookup_append, lookup_entry,
      List.lookup_nil]
    by_cases h : k = e.1 <;> simp [h]

theorem get?_insertNew (t : Table κ α) (k : κ) (v : α) (q : κ) :
    (t.insertNew k v).get? q = (t.get? q).or (if q = k then some v else none) := by
  unfold insertNew contains get?
  split
  · rename_i h
    obtain ⟨w, hw⟩ := Option.isSome_iff_exists.1 h
    by_cases hq : q = k <;> simp [hq, hw]
  · rw [List.lookup_append, lookup_entry, List.lookup_nil]

end Table

end ScriptGlue

import ScriptGlue.Proofs.CollectedFunctions

namespace ScriptGlue.Collection

variable {r : CollectionRules} {units units' : List Cursor} {c : Collected} {shelf : Shelf}
  {key : String}

theorem mem_keys_visit (h : (units.foldlM (visit r) {}).outcome = .ok c) :
    key ∈ c.keys shelf ↔ ∃ u ∈ units, ∃ s ∈ r.sightings u, s.place? = some (shelf, key) := by
  have hempty : key ∉ Collected.keys {} shelf := by cases shelf <;> exact List.not_mem_nil
  rw [foldlM_visit] at h
  rw [Collected.mem_keys_of_fold h]
  simp only [hempty, false_or, List.mem_flatMap]
  constructor
  · rintro ⟨s, ⟨u, hu, hs⟩, hplace⟩
    exact ⟨u, hu, s, hs, hplace⟩
  · rintro ⟨u, hu, s, hs, hplace⟩
    exact ⟨s, ⟨u, hu, hs⟩, hplace⟩

theorem visit_of_mem (h : (units.foldlM (visit r) {}).outcome = .ok c) {u : Cursor}
    (hu : u ∈ units) : (visit r c u).outcome = .ok c :=
  Collected.fold_of_mem fun s hs _ _ hplace => (mem_keys_visit h).2 ⟨u, hu, s, hs, hplace⟩

theorem meetsEmptyToken_perm (hp : units'.Perm units) :
    r.MeetsEmptyToken units' ↔ r.MeetsEmptyToken units := by
  simp only [CollectionRules.MeetsEmptyToken, (hp.flatMap_right Cursor.paths).mem_iff]

/-- Another order of the trees gives the same keys, unless it meets an empty token that this order
does not have to read. -/
theorem visit_perm (hp : units'.Perm units) (h : (units.foldlM (visit r) {}).outcome = .ok c) :
    (∃ c', (units'.foldlM (visit r) {}).outcome = .ok c' ∧
      ∀ shelf key, key ∈ c'.keys shelf ↔ key ∈ c.keys shelf) ∨
    (units'.foldlM (visit r) {}).outcome = .error .emptyToken ∧ r.MeetsEmptyToken units := by
  refine (visit_ends r units').imp (fun ⟨c', h'⟩ => ⟨c', h', fun shelf key => ?_⟩)
    (And.imp_right (meetsEmptyToken_perm hp).1)
  simp only [mem_keys_visit h', mem_keys_visit h, hp.mem_iff]

/-- Visiting a tree again changes nothing, and the order of the trees does not matter for the keys
of the tables. -/
theorem visit_again_or_reordered (r : CollectionRules) (units : List Cursor) :
    (∃ c, (units.foldlM (visit r) {}).outcome = .ok c ∧
      (∀ u ∈ units, (visit r c u).outcome = .ok c) ∧
      ∀ units' : List Cursor, units'.Perm units →
        (∃ c', (units'.foldlM (visit r) {}).outcome = .ok c' ∧
          ∀ shelf key, key ∈ c'.keys shelf ↔ key ∈ c.keys shelf) ∨
        (units'.foldlM (visit r) {}).outcome = .error .emptyToken ∧ r.MeetsEmptyToken units) ∨
    (units.foldlM (visit r) {}).outcome = .error .emptyToken ∧ r.MeetsEmptyToken units := by
  refine (visit_ends r units).imp_left fun ⟨c, h⟩ => ⟨c, h, fun u hu => visit_of_mem h hu, ?_⟩
  exact fun units' hp => visit_perm hp h

end ScriptGlue.Collection

import ScriptGlue.Proofs.Delivery

namespace ScriptGlue

/-- Where a path leads, if it leads anywhere. -/
def Path.location (p : Path) : Location := climb p.parts

namespace FileTree

variable {t t' t'' : FileTree} {p q : Path} {l l' : Location} {ls ls' : List Location}
  {content : String}

/-- The files off the places are as they were, and no directory has gone. -/
structure ChangesOnly (ls : List Location) (t t' : FileTree) : Prop where
  text?_eq : ∀ l ∉ ls, t'.text? l = t.text? l
  isDirectory : ∀ l, t.isDirectory l = true → t'.isDirectory l = true

theorem ChangesOnly.refl (ls : List Location) (t : FileTree) : ChangesOnly ls t t :=
  ⟨fun _ _ => rfl, fun _ => id⟩

theorem ChangesOnly.trans (h : ChangesOnly ls t t') (h' : ChangesOnly ls t' t'') :
    ChangesOnly ls t t'' :=
  ⟨fun l hl => (h'.text?_eq l hl).trans (h.text?_eq l hl),
    fun l hd => h'.isDirectory l (h.isDirectory l hd)⟩

theorem ChangesOnly.weaken (h : ChangesOnly ls t t') (hs : ls ⊆ ls') : ChangesOnly ls' t t' :=
  ⟨fun l hl => h.text?_eq l (mt (@hs l) hl), h.isDirectory⟩

theorem changesOnly_put_directory (h : t.item? l = none) :
    ChangesOnly [] t (t.put l .directory) := by
  have hne : l ≠ [] := by
    rintro rfl
    cases h
  constructor
  · intro q _
    rw [text?, text?, item?_put t hne]
    by_cases hq : q = l
    · rw [if_pos hq, hq, h]
    · rw [if_neg hq]
  · intro q hq
    rw [isDirectory_iff, item?_put t hne]
    split
    · rfl
    · exact isDirectory_iff.1 hq

theorem changesOnly_put_file (h : t.isDirectory l = false) (text : String) :
    ChangesOnly [l] t (t.put l (.file text)) := by
  refine ⟨fun q hq => ?_, fun q => isDirectory_put h⟩
  rw [text?, text?, item?_put t (ne_nil_of_isDirectory h), if_neg (mt List.mem_singleton.2 hq)]

theorem changesOnly_makeDirectories (t : FileTree) (l : Location) (parts : List String) :
    ChangesOnly [] t (t.makeDirectories l parts).1 := by
  induction parts generalizing t l with
  | nil => exact .refl [] t
  | cons part parts ih =>
    rw [makeDirectories]
    split
    · exact .refl [] t
    · split
      · exact ih t (next l part)
      · exact .refl [] t
      · rename_i hnone
        exact (changesOnly_put_directory hnone).trans (ih _ (next l part))

theorem step_eq_ok {part : String} (h : t.step l part = .ok l') :
    t.isDirectory l = true ∧ l' = next l part := by
  rw [step] at h
  split at h
  · cases h
  · cases h
  · rename_i hitem
    split at h
    · cases h
    · exact ⟨isDirectory_iff.2 hitem, (Except.ok.inj h).symm⟩

theorem foldlM_step_eq_ok {parts : List String} (h : parts.foldlM (t.step · ·) l = .ok l') :
    l' = parts.foldl next l := by
  induction parts generalizing l with
  | nil => exact (Except.ok.inj h).symm
  | cons part parts ih =>
    rw [List.foldlM_cons] at h
    obtain ⟨m, hs, h⟩ := Outcome.bind_eq_ok.1 h
    rw [List.foldl_cons, ← (step_eq_ok hs).2]
    exact ih h

theorem locate_eq (h : t.locate p = .ok l) : l = p.location := by
  rw [locate] at h
  split at h
  · cases h
  · exact foldlM_step_eq_ok h

/-- The file has the text, but for the way its lines end. -/
def HasText (t : FileTree) (p : Path) (text : String) : Prop :=
  (t.read p).map Text.normalizeNewlines = .ok (Text.normalizeNewlines text)

theorem read_eq_ok {text : String} (h : t.read p = .ok text) :
    ∃ l, t.locate p = .ok l ∧ t.text? l = some text := by
  obtain ⟨l, hl, h⟩ := Outcome.bind_eq_ok.1 h
  refine ⟨l, hl, ?_⟩
  split at h
  · cases h
  · cases h
  · rename_i s hs
    rw [text?, hs, Except.ok.inj h]

theorem HasText.of_changesOnly {text : String} (h : t.HasText p text) (hc : ChangesOnly ls t t')
    (hp : p.location ∉ ls) : t'.HasText p text := by
  obtain ⟨s, hs, hn⟩ := Outcome.map_eq_ok.1 h
  obtain ⟨l, hl, ht⟩ := read_eq_ok hs
  have hkept : t'.text? l = some s := by
    rw [hc.text?_eq l (locate_eq hl ▸ hp), ht]
  rw [HasText, read_eq (locate_of_isDirectory hc.isDirectory hl) hkept, ← hn]
  rfl

theorem changesOnly_prepared (t : FileTree) (p : Path) : ChangesOnly [] t (t.prepared p).1 := by
  rw [prepared]
  split
  · exact .refl [] t
  · exact changesOnly_makeDirectories t [] p.parent.parts

theorem changesOnly_write {onlyIfChanged : Bool} {r : Except FileFault Bool}
    (h : t.write p content onlyIfChanged = (t', r)) :
    ChangesOnly [p.location] t t' ∧ (r.isOk = false → ChangesOnly [] t t') := by
  -- Until the text is put in its place, only directories have been made.
  have hprepared : ChangesOnly [] t (t.target p).1 := changesOnly_prepared t p
  have hsame : ChangesOnly [p.location] t (t.target p).1 := hprepared.weaken (List.nil_subset _)
  rw [write_eq] at h
  split at h
  · rename_i t₀ f ht
    cases h
    rw [ht] at hprepared hsame
    exact ⟨hsame, fun _ => hprepared⟩
  · rename_i t₀ l ht
    rw [ht] at hprepared hsame
    split at h
    · cases h
      exact ⟨hsame, fun _ => hprepared⟩
    split at h
    · cases h
      exact ⟨hsame, fun _ => hprepared⟩
    rw [replace_eq] at h
    split at h
    · cases h
      exact ⟨hsame, fun _ => hprepared⟩
    split at h
    · cases h
      exact ⟨hsame, fun _ => hprepared⟩
    · rename_i hd
      cases h
      have hl : l = p.location := locate_eq (locate_of_target ht)
      have hput := changesOnly_put_file (Bool.eq_false_iff.2 hd) (Text.normalizeNewlines content)
      refine ⟨hsame.trans (hl ▸ hput), fun h => ?_⟩
      cases h

end FileTree

end ScriptGlue

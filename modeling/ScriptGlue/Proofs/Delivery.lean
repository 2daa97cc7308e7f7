import ScriptGlue.Destination
import ScriptGlue.Proofs.Outcome

namespace ScriptGlue

namespace Text

theorem not_mem_unixLines (s : List Char) : '\r' ∉ unixLines s := by
  fun_induction unixLines s with
  | case1 => simp
  | case2 cs ih => simp [ih]
  | case3 cs _ ih => simp [ih]
  | case4 c cs _ hc ih =>
    rw [List.mem_cons]
    rintro (rfl | hm)
    · exact hc rfl
    · exact ih hm

theorem unixLines_of_not_mem {s : List Char} (h : '\r' ∉ s) : unixLines s = s := by
  fun_induction unixLines s with
  | case1 => rfl
  | case2 cs ih => simp at h
  | case3 cs _ ih => simp at h
  | case4 c cs _ hc ih => rw [ih fun hm => h (List.mem_cons_of_mem c hm)]

theorem normalizeNewlines_idem (s : String) :
    normalizeNewlines (normalizeNewlines s) = normalizeNewlines s := by
  unfold normalizeNewlines
  rw [String.toList_ofList, unixLines_of_not_mem (not_mem_unixLines _)]

end Text

namespace FileTree

variable {t t' : FileTree} {p : Path} {l l' : Location} {content : String} {changed : Bool}

/-- The tree with the directories for the path, as far as they can be made. -/
def prepared (t : FileTree) (p : Path) : FileTree × Except FileFault Location :=
  if p.parent.hasNullCharacter then (t, .error .nullCharacter)
  else t.makeDirectories [] p.parent.parts

/-- Where a text for the path is put, in the tree that has the directories for it. -/
def target (t : FileTree) (p : Path) : FileTree × Except FileFault Location :=
  ((t.prepared p).1, (t.prepared p).2.bind fun _ => (t.prepared p).1.locate p)

/-- The directories for the path can be made, and a file can stand at its end. -/
def IsWritable (t : FileTree) (p : Path) : Prop :=
  p.name ≠ ".." ∧ ∃ t' l, t.target p = (t', .ok l) ∧ t'.isDirectory l = false ∧
    (l.getLast?.getD "").utf8ByteSize + besideLength ≤ nameLimit

theorem write_eq (t : FileTree) (p : Path) (content : String) (onlyIfChanged : Bool) :
    t.write p content onlyIfChanged = match t.target p with
      | (t', .error f) => (t', .error f)
      | (t', .ok l) =>
        if p.name = ".." then (t', .error .busy)
        else if onlyIfChanged ∧ (t'.text? l).map Text.normalizeNewlines =
          some (Text.normalizeNewlines content) then (t', .ok false)
        else t'.replace l (Text.normalizeNewlines content) := by
  rw [write, target, ← prepared]
  obtain ⟨t', made⟩ := t.prepared p
  simp only
  cases made.bind fun _ => t'.locate p with
  | error f => rfl
  | ok l => simp only [Bool.and_eq_true, beq_iff_eq]

section Beside

theorem besideName_not_mem (t : FileTree) (name : String) : t.besideName name ∉ t.names := by
  intro h
  have hsub : (t.besideName name).toList.Sublist (t.names.flatMap String.toList) :=
    List.sublist_flatten_of_mem (List.mem_map_of_mem h)
  have hle := hsub.length_le
  have hend : ".tmp".toList.length = 4 := rfl
  simp only [besideName, String.toList_append, String.toList_ofList, List.length_append] at hle
  omega

theorem ne_beside {e : Location × Item} (he : e ∈ t.entries) (l : Location) :
    e.1 ≠ t.beside l := by
  intro heq
  have hlast : e.1.getLast? = some (t.besideName (l.getLast?.getD "")) := by
    rw [heq, beside, List.getLast?_concat]
  exact besideName_not_mem t _ (List.mem_filterMap.2 ⟨e, he, hlast⟩)

theorem beside_ne_nil (t : FileTree) (l : Location) : t.beside l ≠ [] :=
  List.append_ne_nil_of_right_ne_nil _ (List.cons_ne_nil _ _)

theorem item?_beside (t : FileTree) (l : Location) : t.item? (t.beside l) = none := by
  rw [item?, List.isEmpty_eq_false_iff.2 (beside_ne_nil t l), if_neg Bool.false_ne_true,
    List.lookup_eq_none_iff]
  intro e he
  exact bne_iff_ne.2 (ne_beside he l).symm

theorem remove_put_beside (t : FileTree) (l : Location) (i : Item) :
    (t.put (t.beside l) i).remove (t.beside l) = t := by
  have hnone : ¬t.entries.any (·.1 == t.beside l) = true := by
    intro h
    obtain ⟨e, he, heq⟩ := List.any_eq_true.1 h
    exact ne_beside he l (beq_iff_eq.1 heq)
  have hkept : t.entries.filter (·.1 != t.beside l) = t.entries :=
    List.filter_eq_self.2 fun e he => bne_iff_ne.2 (ne_beside he l)
  rw [put, if_neg hnone, remove, List.filter_append, hkept, List.filter_cons_of_neg (by simp),
    List.filter_nil, List.append_nil]

theorem isDirectory_put_beside (t : FileTree) (l q : Location) (text : String) :
    (t.put (t.beside l) (.file text)).isDirectory q = t.isDirectory q := by
  rw [isDirectory, isDirectory, item?_put t (beside_ne_nil t l)]
  split
  · rename_i hq
    rw [hq, item?_beside]
    rfl
  · rfl

theorem replace_eq (t : FileTree) (l : Location) (text : String) : t.replace l text =
    if nameLimit < (l.getLast?.getD "").utf8ByteSize + besideLength then (t, .error .nameTooLong)
    else if t.isDirectory l then (t, .error .isADirectory)
    else (t.put l (.file text), .ok true) := by
  simp only [replace, isDirectory_put_beside, remove_put_beside]

end Beside

theorem replace_eq_ok {text : String} (h : t.replace l text = (t', .ok changed)) :
    t.isDirectory l = false ∧ t.put l (.file text) = t' := by
  rw [replace_eq] at h
  split at h
  · cases h
  split at h
  · cases h
  · rename_i hd
    cases h
    exact ⟨Bool.eq_false_iff.2 hd, rfl⟩

theorem write_eq_ok {onlyIfChanged : Bool}
    (h : t.write p content onlyIfChanged = (t', .ok changed)) : ∃ t₀ l, t.target p = (t₀, .ok l) ∧
      (t' = t₀ ∧ (t₀.text? l).map Text.normalizeNewlines = some (Text.normalizeNewlines content) ∨
        t₀.isDirectory l = false ∧ t' = t₀.put l (.file (Text.normalizeNewlines content))) := by
  rw [write_eq] at h
  split at h
  · cases h
  · rename_i t₀ l hl
    refine ⟨t₀, l, hl, ?_⟩
    split at h
    · cases h
    split at h
    · rename_i hc
      cases h
      exact .inl ⟨rfl, hc.2⟩
    · obtain ⟨hd, rfl⟩ := replace_eq_ok h
      exact .inr ⟨hd, rfl⟩

theorem isDirectory_iff : t.isDirectory l = true ↔ t.item? l = some .directory := beq_iff_eq

theorem ne_nil_of_isDirectory (h : t.isDirectory l = false) : l ≠ [] := by
  rintro rfl
  cases h

theorem foldlM_step_of_isDirectory (hd : ∀ l, t.isDirectory l = true → t'.isDirectory l = true)
    {parts : List String} (h : parts.foldlM (t.step · ·) l = .ok l') :
    parts.foldlM (t'.step · ·) l = .ok l' := by
  induction parts generalizing l with
  | nil => exact h
  | cons part parts ih =>
    rw [List.foldlM_cons] at h ⊢
    obtain ⟨next, hs, hr⟩ := Outcome.bind_eq_ok.1 h
    refine Outcome.bind_eq_ok.2 ⟨next, ?_, ih hr⟩
    rw [step] at hs
    split at hs
    · cases hs
    · cases hs
    · rename_i hitem
      rw [step, isDirectory_iff.1 (hd l (isDirectory_iff.2 hitem))]
      exact hs

theorem locate_of_isDirectory (hd : ∀ l, t.isDirectory l = true → t'.isDirectory l = true)
    (h : t.locate p = .ok l) : t'.locate p = .ok l := by
  rw [locate] at h ⊢
  split at h
  · cases h
  · rename_i hp
    rw [if_neg hp]
    exact foldlM_step_of_isDirectory hd h

theorem isDirectory_put {text : String} (hl : t.isDirectory l = false)
    (h : t.isDirectory l' = true) : (t.put l (.file text)).isDirectory l' = true := by
  have hne : l' ≠ l := by
    rintro rfl
    rw [hl] at h
    cases h
  rw [isDirectory_iff, item?_put t (ne_nil_of_isDirectory hl), if_neg hne]
  exact isDirectory_iff.1 h

theorem read_eq (h : t.locate p = .ok l) {text : String} (ht : t.text? l = some text) :
    t.read p = .ok text := by
  refine Outcome.bind_eq_ok.2 ⟨l, h, ?_⟩
  rw [text?] at ht
  split at ht
  · rename_i s hs
    rw [hs, ← Option.some.inj ht]
    rfl
  · cases ht

theorem locate_of_target (h : t.target p = (t', .ok l)) : t'.locate p = .ok l := by
  obtain ⟨ht, hl⟩ := Prod.mk.inj h
  obtain ⟨_, -, hl⟩ := Outcome.bind_eq_ok.1 hl
  exact ht ▸ hl

theorem read_write {onlyIfChanged : Bool}
    (h : t.write p content onlyIfChanged = (t', .ok changed)) :
    (t'.read p).map Text.normalizeNewlines = .ok (Text.normalizeNewlines content) := by
  obtain ⟨t₀, l, ht, ⟨rfl, hc⟩ | ⟨hd, rfl⟩⟩ := write_eq_ok h
  · obtain ⟨text, htext, hn⟩ := Option.map_eq_some_iff.1 hc
    rw [read_eq (locate_of_target ht) htext, ← hn]
    rfl
  · have htext : (t₀.put l (.file (Text.normalizeNewlines content))).text? l =
        some (Text.normalizeNewlines content) := by
      rw [text?, item?_put t₀ (ne_nil_of_isDirectory hd), if_pos rfl]
    rw [read_eq (locate_of_isDirectory (fun _ => isDirectory_put hd) (locate_of_target ht)) htext]
    exact congrArg Except.ok (Text.normalizeNewlines_idem content)

theorem write_total {onlyIfChanged : Bool} (h : t.IsWritable p) :
    ∃ t' changed, t.write p content onlyIfChanged = (t', .ok changed) := by
  obtain ⟨hn, t', l, ht, hd, hl⟩ := h
  rw [write_eq, ht]
  simp only [hn, if_false]
  split
  · exact ⟨t', false, rfl⟩
  · rw [replace_eq, if_neg (Nat.not_lt.2 hl), hd, if_neg Bool.false_ne_true]
    exact ⟨_, true, rfl⟩

theorem isWritable_of_item?_eq_none {dir name : String}
    (hnull : Path.hasNullCharacter ⟨1, [dir, name]⟩ = false) (hdir : dir ≠ "..")
    (hname : name ≠ "..")
    (hsize : dir.utf8ByteSize ≤ nameLimit) (hbeside : name.utf8ByteSize + besideLength ≤ nameLimit)
    (hnone : t.item? [dir] = none) (hfree : t.isDirectory [dir, name] = false) :
    t.IsWritable ⟨1, [dir, name]⟩ := by
  have hnext : next [] dir = [dir] := if_neg (mt beq_iff_eq.1 hdir)
  have hlast : next [dir] name = [dir, name] := if_neg (mt beq_iff_eq.1 hname)
  have hitem (q : Location) := item?_put t (List.cons_ne_nil dir []) .directory q
  have hparent : Path.hasNullCharacter ⟨1, [dir]⟩ = false := by
    simp only [Path.hasNullCharacter, List.any_cons, List.any_nil, Bool.or_false,
      Bool.or_eq_false_iff] at hnull ⊢
    exact hnull.1
  have hprepared : t.prepared ⟨1, [dir, name]⟩ = (t.put [dir] .directory, .ok [dir]) := by
    rw [prepared]
    show (if Path.hasNullCharacter ⟨1, [dir]⟩ then _ else t.makeDirectories [] [dir]) = _
    rw [hparent, if_neg Bool.false_ne_true, makeDirectories, if_neg (Nat.not_lt.2 hsize), hnext,
      hnone]
    rfl
  have hlocate : (t.put [dir] .directory).locate ⟨1, [dir, name]⟩ = .ok [dir, name] := by
    have hfirst : (t.put [dir] .directory).step [] dir = .ok [dir] := by
      rw [step, hitem, if_neg (List.cons_ne_nil dir []).symm]
      exact (if_neg (Nat.not_lt.2 hsize)).trans (congrArg _ hnext)
    have hsecond : (t.put [dir] .directory).step [dir] name = .ok [dir, name] := by
      rw [step, hitem, if_pos rfl]
      exact (if_neg (Nat.not_lt.2 (Nat.le_trans (Nat.le_add_right _ _) hbeside))).trans
        (congrArg _ hlast)
    rw [locate, hnull, if_neg Bool.false_ne_true, List.foldlM_cons]
    refine Outcome.bind_total hfirst ?_
    rw [List.foldlM_cons]
    exact Outcome.bind_total hsecond rfl
  refine ⟨hname, t.put [dir] .directory, [dir, name], ?_, ?_, hbeside⟩
  · rw [target, hprepared]
    exact congrArg _ hlocate
  · rw [isDirectory, hitem, if_neg (by simp)]
    exact hfree

theorem writeTold_eq_ok {onlyIfChanged : Bool} :
    (t.writeTold p content onlyIfChanged).outcome = .ok (t', changed) ↔
      t.write p content onlyIfChanged = (t', .ok changed) := by
  rw [writeTold]
  obtain ⟨t₀, written⟩ := t.write p content onlyIfChanged
  simp only [Run.bind_eq_ok, Run.ofExcept_eq_ok, Run.outcome_tell, Run.outcome_pure,
    Except.ok.injEq, Prod.mk.injEq]
  constructor
  · rintro ⟨_, rfl, _, -, rfl, rfl⟩
    exact ⟨rfl, rfl⟩
  · rintro ⟨rfl, rfl⟩
    exact ⟨_, rfl, (), trivial, rfl, rfl⟩

theorem deliver_dryRun : (t.deliver true p content).outcome = .ok t' ↔ t = t' := by
  rw [deliver, if_pos rfl]
  simp only [Run.bind_eq_ok, Run.outcome_tell, Run.outcome_pure, Except.ok.injEq, true_and,
    exists_const]

theorem deliver_eq_ok : (t.deliver false p content).outcome = .ok t' ↔
    ∃ changed, t.write p content = (t', .ok changed) := by
  rw [deliver]
  simp only [Bool.false_eq_true, if_false, Run.bind_eq_ok, Run.outcome_pure, Except.ok.injEq,
    Prod.exists, writeTold_eq_ok]
  constructor
  · rintro ⟨_, changed, h, rfl⟩
    exact ⟨changed, h⟩
  · rintro ⟨changed, h⟩
    exact ⟨t', changed, h, rfl⟩

end FileTree

namespace LoggedTree

variable {s s' : LoggedTree} {told : List Notice} {dryRun : Bool} {p : Path} {content : String}

theorem deliver_eq_ok : (s.deliver told dryRun p content).outcome = .ok s' ↔
    ∃ t', ((s.view told).deliver dryRun p content).outcome = .ok t' ∧
      s.moved (s.view told) t' = s' := by
  rw [deliver]
  simp only [Run.bind_eq_ok, Run.outcome_pure, Except.ok.injEq]

theorem read_deliver (h : (s.deliver told false p content).outcome = .ok s') :
    (s'.tree.read p).map Text.normalizeNewlines = .ok (Text.normalizeNewlines content) := by
  obtain ⟨t', ht, rfl⟩ := deliver_eq_ok.1 h
  obtain ⟨changed, hw⟩ := FileTree.deliver_eq_ok.1 ht
  exact FileTree.read_write hw

theorem deliver_total (h : (s.view told).IsWritable p) :
    ∃ s', (s.deliver told dryRun p content).outcome = .ok s' := by
  cases dryRun with
  | true => exact ⟨_, deliver_eq_ok.2 ⟨_, FileTree.deliver_dryRun.2 rfl, rfl⟩⟩
  | false =>
    obtain ⟨t', changed, hw⟩ := FileTree.write_total h
    exact ⟨_, deliver_eq_ok.2 ⟨t', FileTree.deliver_eq_ok.2 ⟨changed, hw⟩, rfl⟩⟩

end LoggedTree

end ScriptGlue

import ScriptGlue.Proofs.FileChanges

namespace ScriptGlue

/-- What a write is asked for. -/
structure WriteRequest where
  path : Path
  content : String
  onlyIfChanged : Bool := true

/-- One write of a history, between the trees that it found and left. -/
structure WriteStep where
  request : WriteRequest
  before : FileTree
  after : FileTree
  result : Except FileFault Bool

namespace FileTree

variable {t t' t'' : FileTree} {p : Path} {l l' : Location} {parts ps : List String}
  {content : String} {onlyIfChanged changed : Bool}

def writeStep (t : FileTree) (r : WriteRequest) : WriteStep where
  request := r
  before := t
  after := (t.write r.path r.content r.onlyIfChanged).1
  result := (t.write r.path r.content r.onlyIfChanged).2

/-- Writes in turn. One that fails does not keep the others back. -/
def writes (t : FileTree) : List WriteRequest → List WriteStep
  | [] => []
  | r :: rs => t.writeStep r :: (t.writeStep r).after.writes rs

def afterWrites (t : FileTree) (rs : List WriteRequest) : FileTree :=
  rs.foldl (fun t r => (t.writeStep r).after) t

theorem text?_eq_none_of_isDirectory (h : t.isDirectory l = true) : t.text? l = none := by
  rw [text?, isDirectory_iff.1 h]

theorem not_isDirectory_of_isFile (h : t.isFile l = true) : ¬t.isDirectory l = true := by
  intro hd
  rw [isFile, text?_eq_none_of_isDirectory hd] at h
  cases h

theorem makeDirectories_again (h : t.makeDirectories l parts = (t', .ok l'))
    (hd : ∀ q, t'.isDirectory q = true → t''.isDirectory q = true) :
    t''.makeDirectories l parts = (t'', .ok l') := by
  induction parts generalizing t l with
  | nil =>
    cases h
    rfl
  | cons part parts ih =>
    -- The tree in which the rest of the path is followed has a directory after this step.
    have hstep : ¬nameLimit < part.utf8ByteSize ∧
        ∃ u : FileTree, u.isDirectory (next l part) = true ∧
          u.makeDirectories (next l part) parts = (t', .ok l') := by
      rw [makeDirectories] at h
      split at h
      · cases h
      · rename_i hsize
        refine ⟨hsize, ?_⟩
        split at h
        · rename_i hitem
          exact ⟨t, isDirectory_iff.2 hitem, h⟩
        · cases h
        · rename_i hnone
          have hne : next l part ≠ [] := by
            intro hnil
            rw [hnil] at hnone
            cases hnone
          exact ⟨_, isDirectory_iff.2 ((item?_put t hne _ _).trans (if_pos rfl)), h⟩
    obtain ⟨hsize, u, hu, hrest⟩ := hstep
    have hkept : t'.isDirectory (next l part) = true := by
      have hc := changesOnly_makeDirectories u (next l part) parts
      rw [hrest] at hc
      exact hc.isDirectory _ hu
    rw [makeDirectories, if_neg hsize, isDirectory_iff.1 (hd _ hkept)]
    exact ih hrest

theorem target_again (h : t.target p = (t', .ok l))
    (hd : ∀ q, t'.isDirectory q = true → t''.isDirectory q = true) :
    t''.target p = (t'', .ok l) := by
  obtain ⟨ht, hl⟩ := Prod.mk.inj h
  obtain ⟨m, hm, hlocate⟩ := Outcome.bind_eq_ok.1 hl
  have hprepared : t''.prepared p = (t'', .ok m) := by
    have hmade : t.prepared p = (t', .ok m) := Prod.ext ht hm
    rw [prepared] at hmade ⊢
    split at hmade
    · cases hmade
    · rename_i hnull
      rw [if_neg hnull]
      exact makeDirectories_again hmade hd
  rw [target, hprepared]
  exact congrArg _ (locate_of_isDirectory hd (ht ▸ hlocate))

theorem makeDirectories_of_isFile (hf : t.isFile (ps.foldl next l) = true) (hne : ps ≠ [])
    (hp : ps <+: parts) : ∃ f, (t.makeDirectories l parts).2 = .error f := by
  induction parts generalizing t l ps with
  | nil => exact absurd (List.prefix_nil.1 hp) hne
  | cons part parts ih =>
    obtain ⟨q, qs, rfl⟩ := List.exists_cons_of_ne_nil hne
    obtain ⟨rfl, hqs⟩ := List.cons_prefix_cons.1 hp
    rw [List.foldl_cons] at hf
    rw [makeDirectories]
    split
    · exact ⟨_, rfl⟩
    split
    · rename_i hitem
      refine ih hf ?_ hqs
      rintro rfl
      exact not_isDirectory_of_isFile hf (isDirectory_iff.2 hitem)
    · exact ⟨_, rfl⟩
    · rename_i hnone
      refine ih ?_ ?_ hqs
      · rw [isFile, (changesOnly_put_directory hnone).text?_eq _ List.not_mem_nil]
        exact hf
      · rintro rfl
        rw [List.foldl_nil, isFile, text?, hnone] at hf
        cases hf

theorem text?_target (t : FileTree) (p : Path) (l : Location) :
    (t.target p).1.text? l = t.text? l :=
  (changesOnly_prepared t p).text?_eq l List.not_mem_nil

/-- A write that succeeds leaves the text that is there already, if it may, and puts it there
otherwise. -/
theorem write_eq_ok_cases (h : t.write p content onlyIfChanged = (t', .ok changed)) :
    ∃ t₀, t.target p = (t₀, .ok p.location) ∧ p.name ≠ ".." ∧
      if onlyIfChanged = true ∧ (t.text? p.location).map Text.normalizeNewlines =
          some (Text.normalizeNewlines content) then
        changed = false ∧ t' = t₀
      else changed = true ∧ t₀.isDirectory p.location = false ∧
        t' = t₀.put p.location (.file (Text.normalizeNewlines content)) := by
  rw [write_eq] at h
  split at h
  · cases h
  · rename_i t₀ l ht
    obtain rfl : l = p.location := locate_eq (locate_of_target ht)
    have htext : t₀.text? p.location = t.text? p.location := by
      rw [← text?_target t p, ht]
    rw [htext] at h
    split at h
    · cases h
    · rename_i hname
      refine ⟨t₀, ht, hname, ?_⟩
      split_ifs at h ⊢
      · cases h
        exact ⟨rfl, rfl⟩
      · rw [replace_eq] at h
        split at h
        · cases h
        split at h
        · cases h
        · rename_i hd
          cases h
          exact ⟨rfl, Bool.eq_false_iff.2 hd, rfl⟩

theorem write_again (h : t.write p content onlyIfChanged = (t', .ok changed)) :
    t'.write p content = (t', .ok false) := by
  obtain ⟨t₀, ht, hname, hcases⟩ := write_eq_ok_cases h
  have hstays : (∀ q, t₀.isDirectory q = true → t'.isDirectory q = true) ∧
      (t'.text? p.location).map Text.normalizeNewlines =
        some (Text.normalizeNewlines content) := by
    split_ifs at hcases with hsame
    · obtain ⟨-, rfl⟩ := hcases
      refine ⟨fun q => id, ?_⟩
      rw [← hsame.2, ← text?_target t p, ht]
    · obtain ⟨-, hd, rfl⟩ := hcases
      refine ⟨fun q => isDirectory_put hd, ?_⟩
      rw [text?, item?_put t₀ (ne_nil_of_isDirectory hd), if_pos rfl]
      exact congrArg some (Text.normalizeNewlines_idem content)
  rw [write_eq, target_again ht hstays.1]
  dsimp only
  rw [if_neg hname, if_pos ⟨rfl, hstays.2⟩]

theorem write_of_isDirectory (h : t.isDirectory p.location = true) (content : String)
    (onlyIfChanged : Bool) : ∃ f, (t.write p content onlyIfChanged).2 = .error f := by
  rcases hw : t.write p content onlyIfChanged with ⟨t', f | changed⟩
  · exact ⟨f, rfl⟩
  · obtain ⟨t₀, ht, -, hcases⟩ := write_eq_ok_cases hw
    split_ifs at hcases with hsame
    · rw [text?_eq_none_of_isDirectory h] at hsame
      cases hsame.2
    · have hkept := (changesOnly_prepared t p).isDirectory _ h
      rw [show (t.prepared p).1 = t₀ from congrArg Prod.fst ht, hcases.2.1] at hkept
      cases hkept

theorem write_of_isFile (h : t.isFile (Path.climb ps) = true) (hp : ps <+: p.parent.parts)
    (content : String) (onlyIfChanged : Bool) :
    ∃ f, (t.write p content onlyIfChanged).2 = .error f := by
  have hne : ps ≠ [] := by
    rintro rfl
    cases h
  have hprepared : ∃ f, (t.prepared p).2 = .error f := by
    rw [prepared]
    split
    · exact ⟨_, rfl⟩
    · exact makeDirectories_of_isFile h hne hp
  obtain ⟨f, hf⟩ := hprepared
  have htarget : t.target p = ((t.prepared p).1, .error f) := by
    rw [target, hf]
    rfl
  exact ⟨f, by rw [write_eq, htarget]⟩

end FileTree

namespace WriteStep

open FileTree

/-- What can be relied on, whatever was asked for. -/
structure IsSound (x : WriteStep) : Prop where
  /-- No other file is another, and none has come, such as one beside. -/
  frame : ChangesOnly [x.request.path.location] x.before x.after
  hasText : ∀ changed, x.result = .ok changed → x.after.HasText x.request.path x.request.content
  /-- The file is written unless it may be left and has the text. -/
  told : ∀ changed, x.result = .ok changed → (changed = true ↔ x.request.onlyIfChanged = false ∨
    (x.before.text? x.request.path.location).map Text.normalizeNewlines ≠
      some (Text.normalizeNewlines x.request.content))
  /-- A file that is left keeps the ends of its lines. -/
  left : x.result = .ok false → ChangesOnly [] x.before x.after
  again : ∀ changed, x.result = .ok changed →
    x.after.write x.request.path x.request.content = (x.after, .ok false)
  failed : ∀ f, x.result = .error f → ChangesOnly [] x.before x.after
  /-- A directory in its place and a file in its way make a write fail. -/
  refused : x.before.isDirectory x.request.path.location = true ∨
      (∃ ps, ps <+: x.request.path.parent.parts ∧ x.before.isFile (Path.climb ps) = true) →
    ∃ f, x.result = .error f
  succeeds : x.before.IsWritable x.request.path → ∃ changed, x.result = .ok changed

end WriteStep

namespace FileTree

variable {t : FileTree} {r : WriteRequest} {rs : List WriteRequest} {l : Location}

theorem writeStep_isSound (t : FileTree) (r : WriteRequest) : (t.writeStep r).IsSound := by
  have hwrite (result : Except FileFault Bool) (h : (t.writeStep r).result = result) :
      t.write r.path r.content r.onlyIfChanged = ((t.writeStep r).after, result) :=
    Prod.ext rfl h
  constructor
  case frame => exact (changesOnly_write (hwrite _ rfl)).1
  case hasText => exact fun changed h => read_write (hwrite _ h)
  case told =>
    intro changed h
    obtain ⟨t₀, -, -, hcases⟩ := write_eq_ok_cases (hwrite _ h)
    show changed = true ↔ r.onlyIfChanged = false ∨ _ ≠ _
    -- The two cases of a write are told apart by the condition that leaves the file.
    rw [← Bool.not_eq_true, ← not_and_or]
    split_ifs at hcases with hsame
    · rw [hcases.1]
      exact iff_of_false Bool.false_ne_true (not_not_intro hsame)
    · exact iff_of_true hcases.1 hsame
  case left =>
    intro h
    obtain ⟨t₀, ht, -, hcases⟩ := write_eq_ok_cases (hwrite _ h)
    split_ifs at hcases with hsame
    · rw [hcases.2, ← show (t.prepared r.path).1 = t₀ from congrArg Prod.fst ht]
      exact changesOnly_prepared t r.path
    · cases hcases.1
  case again => exact fun changed h => write_again (hwrite _ h)
  case failed =>
    intro f h
    exact (changesOnly_write (hwrite _ h)).2 rfl
  case refused =>
    rintro (h | ⟨ps, hp, hf⟩)
    · exact write_of_isDirectory h r.content r.onlyIfChanged
    · exact write_of_isFile hf hp r.content r.onlyIfChanged
  case succeeds =>
    intro h
    obtain ⟨t', changed, hw⟩ :
        ∃ t' changed, t.write r.path r.content r.onlyIfChanged = (t', .ok changed) :=
      write_total h
    exact ⟨changed, congrArg Prod.snd hw⟩

theorem writes_isSound (t : FileTree) (rs : List WriteRequest) :
    ∀ x ∈ t.writes rs, x.IsSound := by
  induction rs generalizing t with
  | nil => simp [writes]
  | cons r rs ih => exact List.forall_mem_cons.2 ⟨writeStep_isSound t r, ih _⟩

theorem request_writes (t : FileTree) (rs : List WriteRequest) :
    (t.writes rs).map (·.request) = rs := by
  induction rs generalizing t with
  | nil => rfl
  | cons r rs ih => rw [writes, List.map_cons, ih]; rfl

theorem text?_writeStep (h : (t.writeStep r).result.isOk = true → r.path.location ≠ l) :
    (t.writeStep r).after.text? l = t.text? l := by
  have hs := writeStep_isSound t r
  cases hr : (t.writeStep r).result with
  | error f => exact (hs.failed f hr).text?_eq l List.not_mem_nil
  | ok changed =>
    rw [hr] at h
    exact hs.frame.text?_eq l (mt List.mem_singleton.1 (h rfl).symm)

theorem text?_afterWrites
    (h : ∀ x ∈ t.writes rs, x.result.isOk = true → x.request.path.location ≠ l) :
    (t.afterWrites rs).text? l = t.text? l := by
  induction rs generalizing t with
  | nil => rfl
  | cons r rs ih =>
    obtain ⟨hr, hrs⟩ := List.forall_mem_cons.1 h
    exact (ih hrs).trans (text?_writeStep hr)

theorem text?_afterWrites_last {xs ys : List WriteStep} {x : WriteStep} {changed : Bool}
    (hx : t.writes rs = xs ++ x :: ys) (hr : x.result = .ok changed)
    (hys : ∀ y ∈ ys, y.result.isOk = true → y.request.path.location ≠ x.request.path.location) :
    ((t.afterWrites rs).text? x.request.path.location).map Text.normalizeNewlines =
      some (Text.normalizeNewlines x.request.content) := by
  induction rs generalizing t xs with
  | nil => simp [writes] at hx
  | cons r rs ih =>
    rw [writes] at hx
    cases xs with
    | nil =>
      obtain ⟨rfl, rfl⟩ := List.cons.inj hx
      rw [afterWrites, List.foldl_cons, ← afterWrites, text?_afterWrites hys]
      obtain ⟨text, htext, hn⟩ :=
        Outcome.map_eq_ok.1 ((writeStep_isSound t r).hasText changed hr)
      obtain ⟨l, hl, hat⟩ := read_eq_ok htext
      rw [← locate_eq hl, hat, Option.map_some, hn]
    | cons y xs =>
      obtain ⟨-, hx⟩ := List.cons.inj hx
      exact ih hx

/-- Each write of a history is sound. In the end a file has the text of the last write for it that
has succeeded, and one for which there is none is as it was. -/
theorem writes_account (t : FileTree) (rs : List WriteRequest) :
    (t.writes rs).map (·.request) = rs ∧ (∀ x ∈ t.writes rs, x.IsSound) ∧
      (∀ xs x ys changed, t.writes rs = xs ++ x :: ys → x.result = .ok changed →
        (∀ y ∈ ys, y.result.isOk = true →
          y.request.path.location ≠ x.request.path.location) →
        ((t.afterWrites rs).text? x.request.path.location).map Text.normalizeNewlines =
          some (Text.normalizeNewlines x.request.content)) ∧
      ∀ l, (∀ x ∈ t.writes rs, x.result.isOk = true → x.request.path.location ≠ l) →
        (t.afterWrites rs).text? l = t.text? l :=
  ⟨request_writes t rs, writes_isSound t rs, fun _ _ _ _ hx hr hys =>
    text?_afterWrites_last hx hr hys, fun _ h => text?_afterWrites h⟩

/-- A letter whose lines end in two characters. -/
def letter : FileTree := ⟨[(["a.txt"], .file "x\r\ny")]⟩

/-- The letter itself, another text for it, and a text for a file under it. -/
def letters : List WriteRequest := [
  { path := ⟨1, ["a.txt"]⟩, content := "x\ny" },
  { path := ⟨1, ["a.txt"]⟩, content := "z\r" },
  { path := ⟨1, ["a.txt", "b"]⟩, content := "w" }]

theorem target_letter (t : FileTree) : t.target ⟨1, ["a.txt"]⟩ = (t, .ok ["a.txt"]) := by
  have hnull : Path.hasNullCharacter ⟨1, ["a.txt"]⟩ = false := by simp [Path.hasNullCharacter]
  have hlocate : t.locate ⟨1, ["a.txt"]⟩ = .ok ["a.txt"] := by
    rw [locate, hnull]
    rfl
  exact congrArg (Prod.mk t) hlocate

/-- The letter is left as it is, then written, and in the way of the third text. -/
theorem writes_account_letter : ∃ x y z, letter.writes letters = [x, y, z] ∧
    x.result = .ok false ∧ ChangesOnly [] x.before x.after ∧ y.result = .ok true ∧
    (∃ f, z.result = .error f) ∧
    ((letter.afterWrites letters).text? ["a.txt"]).map Text.normalizeNewlines = some "z\n" := by
  have hx : letter.write ⟨1, ["a.txt"]⟩ "x\ny" = (letter, .ok false) := by
    rw [write_eq, target_letter]
    rfl
  have hy : letter.write ⟨1, ["a.txt"]⟩ "z\r" = (letter.put ["a.txt"] (.file "z\n"), .ok true) := by
    rw [write_eq, target_letter]
    rfl
  have hwrites : letter.writes letters = [
      ⟨letters[0], letter, letter, .ok false⟩,
      ⟨letters[1], letter, letter.put ["a.txt"] (.file "z\n"), .ok true⟩,
      (letter.put ["a.txt"] (.file "z\n")).writeStep letters[2]] := by
    simp only [letters, writes, writeStep, hx, hy]
    rfl
  obtain ⟨-, hsound, hlast, -⟩ := writes_account letter letters
  rw [hwrites] at hsound hlast
  simp only [List.forall_mem_cons] at hsound
  obtain ⟨hleft, -, hrefused, -⟩ := hsound
  have hthird := hrefused.refused (.inr ⟨["a.txt"], List.prefix_refl _, rfl⟩)
  refine ⟨_, _, _, hwrites, rfl, hleft.left rfl, rfl, hthird, ?_⟩
  refine hlast [_] _ [_] true rfl rfl fun z hz hok => ?_
  obtain ⟨f, hf⟩ := hthird
  rw [List.mem_singleton.1 hz, hf] at hok
  cases hok

end FileTree

end ScriptGlue

import Mathlib.Data.List.Chain
import ScriptGlue.CppType.Spelling
import ScriptGlue.Proofs.Separation

namespace ScriptGlue.CppType

open Text

variable {s : List Char}

def isSolid (c : Char) : Bool := !isBlank c && !isMark c

def Fits (a b : Char) : Prop :=
  (isBlank a = true → isSolid b = true) ∧ (isBlank b = true → isSolid a = true)

def IsTrimmed (s : List Char) : Prop :=
  (∀ c ∈ s.head?, isBlank c = false) ∧ ∀ c ∈ s.getLast?, isBlank c = false

/-- White space is single spaces, each between two solid characters. -/
structure IsNormal (s : List Char) : Prop where
  trimmed : IsTrimmed s
  spaces : ∀ c ∈ s, isBlank c = true → c = ' '
  fits : s.IsChain Fits

theorem isBlank_of_isMark {c : Char} (h : isMark c = true) : isBlank c = false := by
  simp only [isMark, Bool.or_eq_true, beq_iff_eq] at h
  rcases h with (((rfl | rfl) | rfl) | rfl) | rfl <;> decide

theorem isSolid_eq_true {c : Char} :
    isSolid c = true ↔ isBlank c = false ∧ isMark c = false := by
  rw [isSolid, Bool.and_eq_true, Bool.not_eq_true', Bool.not_eq_true']

theorem isBlank_eq_false_of {a b : Char} (h : isBlank a = true → isBlank b = false)
    (hb : isBlank b = true) : isBlank a = false := by
  cases ha : isBlank a with
  | false => rfl
  | true => rw [h ha] at hb; cases hb

theorem fits_of_unmarked {a b : Char} (hm : isMark a = false)
    (h : isBlank a = true → isSolid b = true) : Fits a b :=
  ⟨h, fun hb => isSolid_eq_true.2
    ⟨isBlank_eq_false_of (fun ha => (isSolid_eq_true.1 (h ha)).1) hb, hm⟩⟩

theorem fits_of_marked {a b : Char} (hm : isMark a = true) (hb : isBlank b = false) :
    Fits a b := by
  refine ⟨fun ha => ?_, fun h => ?_⟩
  · rw [isBlank_of_isMark hm] at ha
    cases ha
  · rw [hb] at h
    cases h

section Trimmed

theorem isTrimmed_trim (s : List Char) : IsTrimmed (trim s) := by
  have hend (s : List Char) : ∀ c ∈ (s.dropWhile isBlank).head?, isBlank c = false :=
    fun c hc => not_of_mem_head?_dropWhile hc
  rw [trim, trimRight, IsTrimmed, List.getLast?_reverse, List.head?_reverse]
  refine ⟨fun c hc => ?_, hend _⟩
  -- What is left of the text begins as it did, unless nothing is left of it.
  obtain ⟨before, hbefore⟩ := List.dropWhile_suffix isBlank (l := (trimLeft s).reverse)
  have hleft := congrArg List.reverse hbefore
  rw [List.reverse_append, List.reverse_reverse] at hleft
  refine hend s c ?_
  rw [← trimLeft, ← hleft, List.head?_append, List.head?_reverse, Option.mem_def.1 hc]
  rfl

theorem IsTrimmed.reverse (h : IsTrimmed s) : IsTrimmed s.reverse := by
  rw [IsTrimmed, List.head?_reverse, List.getLast?_reverse]
  exact h.symm

theorem dropWhile_of_head (h : ∀ c ∈ s.head?, isBlank c = false) : s.dropWhile isBlank = s := by
  cases s with
  | nil => rfl
  | cons c cs => exact List.dropWhile_cons_of_neg (by simpa using h c rfl)

theorem IsTrimmed.trim_eq (h : IsTrimmed s) : trim s = s := by
  rw [trim, trimLeft, dropWhile_of_head h.1, trimRight, dropWhile_of_head h.reverse.1,
    List.reverse_reverse]

theorem getLast?_dropAfterMark (afterMark : Bool) (h : ∀ c ∈ s.getLast?, isBlank c = false) :
    (dropAfterMark afterMark s).getLast? = s.getLast? := by
  induction s generalizing afterMark with
  | nil => rfl
  | cons c cs ih =>
    cases cs with
    | nil =>
      rw [dropAfterMark, h c rfl, Bool.false_and, if_neg Bool.false_ne_true]
      rfl
    | cons d ds =>
      rw [dropAfterMark]
      rw [List.getLast?_cons_cons] at h ⊢
      split
      · exact ih true h
      · rw [List.getLast?_cons, ih _ h, List.getLast?_cons]
        rfl

theorem getLast?_collapse (inRun : Bool) (h : ∀ c ∈ s.getLast?, isBlank c = false) :
    (collapse inRun s).getLast? = s.getLast? := by
  induction s generalizing inRun with
  | nil => rfl
  | cons c cs ih =>
    cases cs with
    | nil =>
      rw [collapse, h c rfl, if_neg Bool.false_ne_true]
      rfl
    | cons d ds =>
      rw [collapse]
      rw [List.getLast?_cons_cons] at h ⊢
      split_ifs
      · exact ih true h
      · rw [List.getLast?_cons, ih _ h, List.getLast?_cons]
        rfl
      · rw [List.getLast?_cons, ih _ h, List.getLast?_cons]
        rfl

theorem IsTrimmed.dropAfterMark (h : IsTrimmed s) : IsTrimmed (dropAfterMark false s) := by
  refine ⟨?_, by rw [getLast?_dropAfterMark false h.2]; exact h.2⟩
  cases s with
  | nil => exact h.1
  | cons c cs =>
    rw [CppType.dropAfterMark, Bool.and_false, if_neg Bool.false_ne_true]
    exact h.1

theorem IsTrimmed.collapse (h : IsTrimmed s) : IsTrimmed (collapse false s) := by
  refine ⟨?_, by rw [getLast?_collapse false h.2]; exact h.2⟩
  cases s with
  | nil => exact h.1
  | cons c cs =>
    rw [CppType.collapse, h.1 c rfl, if_neg Bool.false_ne_true]
    exact h.1

end Trimmed

section Passes

theorem mem_dropAfterMark {c : Char} {afterMark : Bool} (h : c ∈ dropAfterMark afterMark s) :
    c ∈ s := by
  induction s generalizing afterMark with
  | nil => cases h
  | cons d ds ih =>
    rw [dropAfterMark] at h
    split at h
    · exact List.mem_cons_of_mem d (ih h)
    · rcases List.mem_cons.1 h with rfl | h
      · exact List.mem_cons_self
      · exact List.mem_cons_of_mem d (ih h)

theorem eq_space_of_mem_collapse {c : Char} {inRun : Bool} (h : c ∈ collapse inRun s)
    (hc : isBlank c = true) : c = ' ' := by
  induction s generalizing inRun with
  | nil => cases h
  | cons d ds ih =>
    rw [collapse] at h
    split_ifs at h with hd
    · exact ih h
    · rcases List.mem_cons.1 h with rfl | h
      · rfl
      · exact ih h
    · rcases List.mem_cons.1 h with rfl | h
      · exact absurd hc hd
      · exact ih h

theorem isChain_collapse (inRun : Bool) (s : List Char) :
    (inRun = true → ∀ c ∈ (collapse inRun s).head?, isBlank c = false) ∧
      (collapse inRun s).IsChain fun a b => isBlank a = true → isBlank b = false := by
  induction s generalizing inRun with
  | nil => exact ⟨by simp [collapse], .nil⟩
  | cons c cs ih =>
    rw [collapse]
    split_ifs with hc hrun
    · exact ⟨fun _ => (ih true).1 rfl, (ih true).2⟩
    · refine ⟨fun h => absurd h hrun, ?_⟩
      exact List.isChain_cons.2 ⟨fun d hd _ => (ih true).1 rfl d hd, (ih true).2⟩
    · have hc : isBlank c = false := by simpa using hc
      refine ⟨fun _ d hd => ?_, ?_⟩
      · rw [← Option.some.inj hd]
        exact hc
      · exact List.isChain_cons.2 ⟨fun d _ hb => absurd hb (by simp [hc]), (ih false).2⟩

theorem isChain_dropAfterMark {R : Char → Char → Prop}
    (hmark : ∀ a b, isMark a = true → isBlank b = false → R a b) (afterMark : Bool)
    (h : s.IsChain fun a b => isMark a = false → R a b) :
    (afterMark = true → ∀ c ∈ (dropAfterMark afterMark s).head?, isBlank c = false) ∧
      (afterMark = false → (dropAfterMark afterMark s).head? = s.head?) ∧
      (dropAfterMark afterMark s).IsChain R := by
  induction s generalizing afterMark with
  | nil => exact ⟨by simp [dropAfterMark], by simp [dropAfterMark], .nil⟩
  | cons c cs ih =>
    obtain ⟨hc, hcs⟩ := List.isChain_cons.1 h
    rw [dropAfterMark]
    split
    · rename_i hdrop
      obtain ⟨-, rfl⟩ := Bool.and_eq_true_iff.1 hdrop
      obtain ⟨hhead, -, hchain⟩ := ih true hcs
      exact ⟨hhead, fun h => Bool.noConfusion h, hchain⟩
    · rename_i hkeep
      refine ⟨?_, fun _ => rfl, List.isChain_cons.2 ⟨?_, (ih _ hcs).2.2⟩⟩
      · rintro rfl d hd
        rw [← Option.some.inj hd]
        simpa using hkeep
      · intro d hd
        cases hm : isMark c with
        | true =>
          rw [hm] at hd
          exact hmark c d hm ((ih true hcs).1 rfl d hd)
        | false =>
          rw [hm, (ih false hcs).2.1 rfl] at hd
          exact hc d hd hm

end Passes

theorem isNormal_normalize (s : List Char) : IsNormal (normalize s) := by
  have htrimmed := (isTrimmed_trim s).collapse
  -- The blanks lose the marks beside them, first those on the left and then those on the right.
  have hfirst : (dropAfterMark false (collapse false (trim s))).IsChain
      fun a b => isBlank b = true → isSolid a = true := by
    refine (isChain_dropAfterMark (fun a b hm hb => (fits_of_marked hm hb).2) false ?_).2.2
    refine (isChain_collapse false (trim s)).2.imp fun a b hab hm hb => ?_
    exact isSolid_eq_true.2 ⟨isBlank_eq_false_of hab hb, hm⟩
  have hsecond : (dropAfterMark false
      (dropAfterMark false (collapse false (trim s))).reverse).IsChain Fits := by
    refine (isChain_dropAfterMark (fun a b => fits_of_marked) false ?_).2.2
    exact (List.isChain_reverse.2 hfirst).imp fun a b hab hm => fits_of_unmarked hm hab
  refine ⟨htrimmed.dropAfterMark.reverse.dropAfterMark.reverse, ?_, ?_⟩
  · intro c hc
    rw [normalize, tighten, List.mem_reverse] at hc
    exact eq_space_of_mem_collapse
      (mem_dropAfterMark (List.mem_reverse.1 (mem_dropAfterMark hc)))
  · rw [normalize, tighten, List.isChain_reverse]
    exact hsecond.imp fun a b h => h.symm

theorem collapse_eq_self (hspaces : ∀ c ∈ s, isBlank c = true → c = ' ')
    (hfits : s.IsChain Fits) (inRun : Bool)
    (hhead : inRun = true → ∀ c ∈ s.head?, isBlank c = false) : collapse inRun s = s := by
  induction s generalizing inRun with
  | nil => rfl
  | cons c cs ih =>
    obtain ⟨hc, hcs⟩ := List.isChain_cons.1 hfits
    have hrest := ih (fun d hd => hspaces d (List.mem_cons_of_mem c hd)) hcs
    rw [collapse]
    split_ifs with hblank hrun
    · rw [hhead hrun c rfl] at hblank
      cases hblank
    · rw [hrest true fun _ d hd => (isSolid_eq_true.1 ((hc d hd).1 hblank)).1,
        hspaces c List.mem_cons_self hblank]
    · rw [hrest false fun h => absurd h Bool.false_ne_true]

theorem dropAfterMark_eq_self (hfits : s.IsChain Fits) (afterMark : Bool)
    (hhead : afterMark = true → ∀ c ∈ s.head?, isBlank c = false) :
    dropAfterMark afterMark s = s := by
  induction s generalizing afterMark with
  | nil => rfl
  | cons c cs ih =>
    obtain ⟨hc, hcs⟩ := List.isChain_cons.1 hfits
    rw [dropAfterMark]
    split
    · rename_i hdrop
      obtain ⟨hblank, rfl⟩ := Bool.and_eq_true_iff.1 hdrop
      rw [hhead rfl c rfl] at hblank
      cases hblank
    · rw [ih hcs _ fun hm d hd => ?_]
      cases hb : isBlank d with
      | false => rfl
      | true => rw [(isSolid_eq_true.1 ((hc d hd).2 hb)).2] at hm; cases hm

theorem IsNormal.normalize_eq (h : IsNormal s) : normalize s = s := by
  have hfits : s.reverse.IsChain Fits :=
    List.isChain_reverse.2 (h.fits.imp fun a b hab => hab.symm)
  have hopen (s : List Char) : false = true → ∀ c ∈ s.head?, isBlank c = false :=
    fun h => absurd h Bool.false_ne_true
  rw [normalize, h.trimmed.trim_eq, collapse_eq_self h.spaces h.fits false (hopen s), tighten,
    dropAfterMark_eq_self h.fits false (hopen s), dropAfterMark_eq_self hfits false (hopen _),
    List.reverse_reverse]

theorem normalize_idem (s : List Char) : normalize (normalize s) = normalize s :=
  (isNormal_normalize s).normalize_eq

theorem normalizeName_idem (name : String) :
    normalizeName (normalizeName name) = normalizeName name := by
  rw [normalizeName, normalizeName, String.toList_ofList, normalize_idem]

theorem normalizeName_ofSpelling (s : String) :
    normalizeName (ofSpelling s).name = (ofSpelling s).name := by
  have hname (ws : List (List Char)) : normalize (nameOfWords ws) = nameOfWords ws := by
    rw [nameOfWords]
    split
    · decide
    · exact normalize_idem _
  rw [ofSpelling, ofChars, normalizeName, String.toList_ofList, hname]

end ScriptGlue.CppType

import Mathlib.Data.List.TakeWhile
import Mathlib.Logic.Relation
import ScriptGlue.Proofs.TopLevel
import ScriptGlue.Proofs.TypeName

namespace ScriptGlue.CppType

open Text

/-- The first text is what is left of the second after white space has been replaced or dropped,
but not all that stands between two solid characters. `solid` tells that such a character stands
before. -/
inductive Thins : Bool → List Char → List Char → Prop
  | nil {solid} : Thins solid [] []
  | keep {solid c t s} : Thins (isSolid c) t s → Thins solid (c :: t) (c :: s)
  | blank {solid b' b t s} : isBlank b' = true → isBlank b = true → Thins false t s →
      Thins solid (b' :: t) (b :: s)
  | drop {solid b t s} : isBlank b = true →
      (solid = true → ∀ c ∈ t.head?, isSolid c = false) → Thins solid t s → Thins solid t (b :: s)

def Thinner : List Char → List Char → Prop := Relation.ReflTransGen (Thins false)

variable {solid afterMark inRun : Bool} {b c : Char} {s t p q w gap : List Char}

section Passes

theorem not_isSolid_of_isBlank (h : isBlank c = true) : isSolid c = false := by
  rw [isSolid, h]
  rfl

theorem not_isSolid_of_isMark (h : isMark c = true) : isSolid c = false := by
  rw [isSolid, h]
  exact Bool.and_false _

theorem thins_self (solid : Bool) (s : List Char) : Thins solid s s := by
  induction s generalizing solid with
  | nil => exact .nil
  | cons c s ih => exact .keep (ih _)

theorem thins_blank_append (h : ∀ c ∈ gap, isBlank c = true) : Thins false s (gap ++ s) := by
  induction gap with
  | nil => exact thins_self false s
  | cons b gap ih =>
    obtain ⟨hb, hgap⟩ := List.forall_mem_cons.1 h
    exact .drop hb (fun hf => absurd hf Bool.false_ne_true) (ih hgap)

theorem thins_append_blank (solid : Bool) (s : List Char) (h : ∀ c ∈ gap, isBlank c = true) :
    Thins solid s (s ++ gap) := by
  induction s generalizing solid with
  | nil =>
    induction gap with
    | nil => exact .nil
    | cons b gap ih =>
      obtain ⟨hb, hgap⟩ := List.forall_mem_cons.1 h
      exact .drop hb (fun _ c hc => nomatch hc) (ih hgap)
  | cons c s ih => exact .keep (ih _)

theorem thins_trimLeft (s : List Char) : Thins false (trimLeft s) s := by
  have h : Thins false (trimLeft s) (s.takeWhile isBlank ++ trimLeft s) :=
    thins_blank_append fun c hc => List.mem_takeWhile_imp hc
  rw [trimLeft, List.takeWhile_append_dropWhile] at h
  exact h

theorem trimRight_append (s : List Char) :
    s = trimRight s ++ (s.reverse.takeWhile isBlank).reverse := by
  rw [trimRight, ← List.reverse_append, List.takeWhile_append_dropWhile, List.reverse_reverse]

theorem thins_trimRight (s : List Char) : Thins false (trimRight s) s := by
  have hgap : ∀ c ∈ (s.reverse.takeWhile isBlank).reverse, isBlank c = true :=
    fun c hc => List.mem_takeWhile_imp (List.mem_reverse.1 hc)
  have h := thins_append_blank false (trimRight s) hgap
  rw [← trimRight_append] at h
  exact h

theorem thins_collapse (h : inRun = true → solid = false) : Thins solid (collapse inRun s) s := by
  induction s generalizing inRun solid with
  | nil => exact .nil
  | cons c s ih =>
    rw [collapse]
    split_ifs with hc hrun
    · exact .drop hc (fun hs => absurd ((h hrun).symm.trans hs) Bool.false_ne_true)
        (ih fun _ => h hrun)
    · exact .blank rfl hc (ih fun _ => rfl)
    · exact .keep (ih fun hf => absurd hf Bool.false_ne_true)

theorem thins_dropAfterMark (h : afterMark = true → solid = false) :
    Thins solid (dropAfterMark afterMark s) s := by
  induction s generalizing afterMark solid with
  | nil => exact .nil
  | cons c s ih =>
    rw [dropAfterMark]
    split
    · rename_i hdrop
      obtain ⟨hc, hmark⟩ := Bool.and_eq_true_iff.1 hdrop
      exact .drop hc (fun hs => absurd ((h hmark).symm.trans hs) Bool.false_ne_true)
        (ih fun _ => h hmark)
    · exact .keep (ih not_isSolid_of_isMark)

theorem dropAfterMark_concat (afterMark : Bool) (s : List Char) (c : Char) :
    dropAfterMark afterMark (s ++ [c]) = dropAfterMark afterMark s ++
      if isBlank c && ((dropAfterMark afterMark s).getLast?.map isMark).getD afterMark then []
      else [c] := by
  induction s generalizing afterMark with
  | nil =>
    rw [List.nil_append, dropAfterMark, dropAfterMark, dropAfterMark]
    rfl
  | cons d s ih =>
    rw [List.cons_append, dropAfterMark, dropAfterMark]
    split
    · rename_i hdrop
      rw [ih, (Bool.and_eq_true_iff.1 hdrop).2]
    · rw [ih, List.getLast?_cons, List.cons_append]
      cases (dropAfterMark (isMark d) s).getLast? <;> rfl

theorem reverse_dropAfterMark_cons (c : Char) (s : List Char) :
    (dropAfterMark false (c :: s).reverse).reverse =
      if isBlank c && (dropAfterMark false s.reverse).reverse.head?.any isMark then
        (dropAfterMark false s.reverse).reverse
      else c :: (dropAfterMark false s.reverse).reverse := by
  rw [List.reverse_cons, dropAfterMark_concat, List.head?_reverse]
  cases (dropAfterMark false s.reverse).getLast? <;> split <;> simp_all

theorem thins_reverse_dropAfterMark (solid : Bool) (s : List Char) :
    Thins solid (dropAfterMark false s.reverse).reverse s := by
  induction s generalizing solid with
  | nil => exact .nil
  | cons c s ih =>
    rw [reverse_dropAfterMark_cons]
    split
    · rename_i hdrop
      obtain ⟨hc, hmark⟩ := Bool.and_eq_true_iff.1 hdrop
      refine .drop hc (fun _ d hd => not_isSolid_of_isMark ?_) (ih solid)
      rw [Option.mem_def.1 hd] at hmark
      exact hmark
    · exact .keep (ih _)

theorem thinner_normalize (s : List Char) : Thinner (normalize s) s := by
  have hmarks := thins_reverse_dropAfterMark false (dropAfterMark false (collapse false (trim s)))
  have hcollapse : Thins false (collapse false (trim s)) (trim s) := thins_collapse fun _ => rfl
  apply Relation.ReflTransGen.head hmarks
  apply Relation.ReflTransGen.head (thins_dropAfterMark fun _ => rfl)
  apply Relation.ReflTransGen.head hcollapse
  apply Relation.ReflTransGen.head (thins_trimRight (trimLeft s))
  exact .single (thins_trimLeft s)

end Passes

section Kept

theorem Thins.filter_eq (h : Thins solid t s) : t.filter (!isBlank ·) = s.filter (!isBlank ·) := by
  induction h with
  | nil => rfl
  | keep _ ih => rw [List.filter_cons, List.filter_cons, ih]
  | blank hb' hb _ ih => simp [hb', hb, ih]
  | drop hb _ _ ih => simp [hb, ih]

theorem Thinner.filter_eq (h : Thinner t s) : t.filter (!isBlank ·) = s.filter (!isBlank ·) := by
  induction h using Relation.ReflTransGen.head_induction_on with
  | refl => rfl
  | head hthins _ ih => exact hthins.filter_eq.trans ih

theorem Thins.exists_of_solid (h : Thins true (w ++ q) s) (hw : ∀ c ∈ w, isSolid c = true)
    (hq : StartsBlank q) : ∃ q', s = w ++ q' ∧ StartsBlank q' := by
  induction w generalizing s with
  | nil =>
    cases h with
    | nil => exact ⟨[], rfl, hq⟩
    | keep _ => exact ⟨_, rfl, startsBlank_cons.2 (startsBlank_cons.1 hq)⟩
    | blank _ hb _ => exact ⟨_, rfl, startsBlank_cons.2 hb⟩
    | drop hb _ _ => exact ⟨_, rfl, startsBlank_cons.2 hb⟩
  | cons c w ih =>
    obtain ⟨hc, hw⟩ := List.forall_mem_cons.1 hw
    cases h with
    | keep h =>
      rw [hc] at h
      obtain ⟨q', rfl, hq'⟩ := ih h hw
      exact ⟨q', rfl, hq'⟩
    | blank hb _ _ =>
      rw [not_isSolid_of_isBlank hb] at hc
      cases hc
    | drop _ hnext _ =>
      rw [hnext rfl c rfl] at hc
      cases hc

theorem Thins.exists_of_append (h : Thins solid t s) (ht : t = p ++ (w ++ q)) (hne : w ≠ [])
    (hw : ∀ c ∈ w, isSolid c = true) (hp : EndsBlank p) (hstart : p = [] → solid = false)
    (hq : StartsBlank q) :
    ∃ p' q', s = p' ++ (w ++ q') ∧ (∀ depth, depthAfter depth p' = depthAfter depth p) ∧
      EndsBlank p' ∧ (p' = [] → p = []) ∧ StartsBlank q' := by
  induction h generalizing p with
  | nil => simp [hne] at ht
  | @keep solid c t s h ih =>
    cases p with
    | nil =>
      -- The word begins here, and goes on after its first character.
      obtain ⟨d, w, rfl⟩ := List.exists_cons_of_ne_nil hne
      obtain ⟨hd, hrest⟩ := List.forall_mem_cons.1 hw
      obtain ⟨rfl, rfl⟩ := List.cons.inj ht
      rw [hd] at h
      obtain ⟨q', rfl, hq'⟩ := h.exists_of_solid hrest hq
      exact ⟨[], q', rfl, fun _ => rfl, hp, fun _ => rfl, hq'⟩
    | cons d p =>
      obtain ⟨rfl, rfl⟩ := List.cons.inj ht
      have hlast : p = [] → isBlank c = true := by
        rintro rfl
        exact hp c rfl
      obtain ⟨p', q', rfl, hdepth, hp', hnil, hq'⟩ := ih rfl hp.tail fun h =>
        not_isSolid_of_isBlank (hlast h)
      exact ⟨c :: p', q', rfl, fun depth => hdepth (turn depth c),
        hp'.cons fun h => hlast (hnil h), (fun h => nomatch h), hq'⟩
  | @blank solid b' b t s hb' hb h ih =>
    cases p with
    | nil =>
      obtain ⟨d, w, rfl⟩ := List.exists_cons_of_ne_nil hne
      obtain ⟨rfl, rfl⟩ := List.cons.inj ht
      have hsolid := hw b' List.mem_cons_self
      rw [not_isSolid_of_isBlank hb'] at hsolid
      cases hsolid
    | cons d p =>
      obtain ⟨rfl, rfl⟩ := List.cons.inj ht
      obtain ⟨p', q', rfl, hdepth, hp', hnil, hq'⟩ := ih rfl hp.tail fun _ => rfl
      refine ⟨b :: p', q', rfl, fun depth => ?_, hp'.cons fun _ => hb, (fun h => nomatch h), hq'⟩
      rw [depthAfter_cons, depthAfter_cons, turn_of_isBlank hb, turn_of_isBlank hb']
      exact hdepth depth
  | @drop solid b t s hb _ h ih =>
    obtain ⟨p', q', rfl, hdepth, hp', hnil, hq'⟩ := ih ht hp hstart
    refine ⟨b :: p', q', rfl, fun depth => ?_, hp'.cons fun _ => hb, (fun h => nomatch h), hq'⟩
    rw [depthAfter_cons, turn_of_isBlank hb]
    exact hdepth depth

theorem Thins.standsAlone (h : Thins false t s) (hne : w ≠ []) (hw : ∀ c ∈ w, isSolid c = true)
    (hword : StandsAlone w t) : StandsAlone w s := by
  obtain ⟨p, q, ht, hdepth, hp, hq⟩ := hword
  obtain ⟨p', q', hs, hdepth', hp', -, hq'⟩ :=
    h.exists_of_append ht hne hw hp (fun _ => rfl) hq
  exact ⟨p', q', hs, (hdepth' 0).trans hdepth, hp', hq'⟩

theorem Thinner.standsAlone (h : Thinner t s) (hne : w ≠ []) (hw : ∀ c ∈ w, isSolid c = true)
    (hword : StandsAlone w t) : StandsAlone w s := by
  induction h using Relation.ReflTransGen.head_induction_on with
  | refl => exact hword
  | head hthins _ ih => exact ih (hthins.standsAlone hne hw hword)

end Kept

end ScriptGlue.CppType

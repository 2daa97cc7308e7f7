import Mathlib.Data.List.Basic
import ScriptGlue.CppType.Spelling

namespace ScriptGlue.CppType

open Text

def turn (depth : Int) (c : Char) : Int :=
  if c == '<' then depth + 1 else if c == '>' then depth - 1 else depth

/-- How many brackets are open after a text that begins inside of so many; less than none are open
where one is closed that has not been opened. -/
def depthAfter (depth : Int) (s : List Char) : Int := s.foldl turn depth

def Outside (P : Char → Prop) (depth : Int) : List Char → Prop
  | [] => True
  | c :: s => (depth = 0 → P c) ∧ Outside P (turn depth c) s

instance Outside.decidable {P : Char → Prop} [DecidablePred P] :
    (depth : Int) → (s : List Char) → Decidable (Outside P depth s)
  | _, [] => inferInstanceAs (Decidable True)
  | depth, c :: s =>
    have := Outside.decidable (P := P) (turn depth c) s
    inferInstanceAs (Decidable ((depth = 0 → P c) ∧ _))

def IsUnbroken (s : List Char) : Prop := Outside (isBlank · = false) 0 s

/-- White space outside of brackets cuts the text into the words. Brackets may be left open by the
last one. -/
inductive IsCut : List (List Char) → List Char → Prop
  | nil : IsCut [] []
  | blank {b ws s} : isBlank b = true → IsCut ws s → IsCut ws (b :: s)
  | last {w} : w ≠ [] → IsUnbroken w → IsCut [w] w
  | word {w b ws s} : w ≠ [] → IsUnbroken w → depthAfter 0 w = 0 → isBlank b = true →
      IsCut ws s → IsCut (w :: ws) (w ++ b :: s)

variable {P : Char → Prop} {depth : Int} {b c : Char} {s x y w word : List Char}
  {ws vs : List (List Char)}

section Depth

@[simp] theorem depthAfter_nil : depthAfter depth [] = depth := rfl

@[simp] theorem depthAfter_cons : depthAfter depth (c :: s) = depthAfter (turn depth c) s := rfl

theorem depthAfter_append : depthAfter depth (x ++ y) = depthAfter (depthAfter depth x) y :=
  List.foldl_append

theorem turn_of_flat (h : c ≠ '<' ∧ c ≠ '>') : turn depth c = depth := by
  rw [turn, if_neg (by simpa using h.1), if_neg (by simpa using h.2)]

theorem flat_of_isBlank (h : isBlank c = true) : c ≠ '<' ∧ c ≠ '>' := by
  constructor
  · rintro rfl
    cases h
  · rintro rfl
    cases h

theorem turn_of_isBlank (h : isBlank c = true) : turn depth c = depth :=
  turn_of_flat (flat_of_isBlank h)

theorem depthAfter_of_flat (h : ∀ c ∈ s, c ≠ '<' ∧ c ≠ '>') : depthAfter depth s = depth := by
  induction s with
  | nil => rfl
  | cons c s ih =>
    obtain ⟨hc, hs⟩ := List.forall_mem_cons.1 h
    rw [depthAfter_cons, turn_of_flat hc]
    exact ih hs

theorem outside_append :
    Outside P depth (x ++ y) ↔ Outside P depth x ∧ Outside P (depthAfter depth x) y := by
  induction x generalizing depth with
  | nil => simp [Outside]
  | cons c x ih => simp only [List.cons_append, Outside, ih, depthAfter_cons, and_assoc]

theorem outside_of_forall (h : ∀ c ∈ s, P c) : Outside P depth s := by
  induction s generalizing depth with
  | nil => trivial
  | cons c s ih =>
    obtain ⟨hc, hs⟩ := List.forall_mem_cons.1 h
    exact ⟨fun _ => hc, ih hs⟩

theorem Outside.holds (h : Outside P depth (x ++ c :: y)) (hx : depthAfter depth x = 0) : P c :=
  (outside_append.1 h).2.1 hx

end Depth

section Words

theorem topLevelWords_blank (h : isBlank b = true) :
    topLevelWords 0 word (b :: s) =
      if word.isEmpty then topLevelWords 0 [] s else word.reverse :: topLevelWords 0 [] s := by
  change (if turn 0 b == 0 && isBlank b then
    if word.isEmpty then topLevelWords (turn 0 b) [] s
    else word.reverse :: topLevelWords (turn 0 b) [] s
    else topLevelWords (turn 0 b) (b :: word) s) = _
  rw [turn_of_isBlank h, h]
  rfl

theorem topLevelWords_keep (h : depth = 0 → isBlank c = false) :
    topLevelWords depth word (c :: s) = topLevelWords (turn depth c) (c :: word) s := by
  have hc : (turn depth c == 0 && isBlank c) = false := by
    cases hb : isBlank c with
    | false => exact Bool.and_false _
    | true =>
      rw [turn_of_isBlank hb, Bool.and_true, beq_eq_false_iff_ne]
      intro hd
      rw [h hd] at hb
      cases hb
  exact if_neg (Bool.eq_false_iff.1 hc)

theorem topLevelWords_append (h : Outside (isBlank · = false) depth x) :
    topLevelWords depth word (x ++ y) =
      topLevelWords (depthAfter depth x) (x.reverse ++ word) y := by
  induction x generalizing depth word with
  | nil => rfl
  | cons c x ih =>
    rw [List.cons_append, topLevelWords_keep h.1, ih h.2, List.reverse_cons, List.append_assoc]
    rfl

theorem IsCut.topLevelWords_eq (h : IsCut ws s) : topLevelWords 0 [] s = ws := by
  induction h with
  | nil => rfl
  | blank hb _ ih =>
    rw [topLevelWords_blank hb]
    exact ih
  | @last w hne hw =>
    have happ :
        topLevelWords 0 [] (w ++ []) = topLevelWords (depthAfter 0 w) (w.reverse ++ []) [] :=
      topLevelWords_append hw
    rw [List.append_nil, List.append_nil] at happ
    rw [happ, topLevelWords, if_neg (by simpa using hne), List.reverse_reverse]
  | @word w b ws s hne hw hdepth hb _ ih =>
    rw [topLevelWords_append hw, hdepth, List.append_nil, topLevelWords_blank hb,
      if_neg (by simpa using hne), List.reverse_reverse, ih]

theorem isCut_topLevelWords_of_word (hword : IsUnbroken word.reverse)
    (hdepth : depthAfter 0 word.reverse = depth) :
    IsCut (topLevelWords depth word s) (word.reverse ++ s) := by
  induction s generalizing depth word with
  | nil =>
    rw [List.append_nil, topLevelWords]
    split
    · rename_i hempty
      obtain rfl := List.isEmpty_iff.1 hempty
      exact .nil
    · rename_i hne
      exact .last (by simpa using hne) hword
  | cons c s ih =>
    by_cases hc : depth = 0 ∧ isBlank c = true
    · obtain ⟨hzero, hb⟩ := hc
      subst hzero
      have hrest : IsCut (topLevelWords 0 [] s) s := @ih 0 [] trivial rfl
      rw [topLevelWords_blank hb]
      split
      · rename_i hempty
        obtain rfl := List.isEmpty_iff.1 hempty
        exact .blank hb hrest
      · rename_i hne
        exact .word (by simpa using hne) hword hdepth hb hrest
    · have hkeep : depth = 0 → isBlank c = false := by
        intro hd
        exact Bool.eq_false_iff.2 fun hb => hc ⟨hd, hb⟩
      have hmove : word.reverse ++ c :: s = (c :: word).reverse ++ s := by simp
      rw [topLevelWords_keep hkeep, hmove]
      apply ih
      · rw [List.reverse_cons, IsUnbroken, outside_append, hdepth]
        exact ⟨hword, hkeep, trivial⟩
      · rw [List.reverse_cons, depthAfter_append, hdepth]
        rfl

theorem topLevelWords_eq_iff : topLevelWords 0 [] s = ws ↔ IsCut ws s := by
  constructor
  · rintro rfl
    exact @isCut_topLevelWords_of_word 0 s [] trivial rfl
  · exact IsCut.topLevelWords_eq

theorem IsCut.word_of_mem (h : IsCut ws s) (hw : w ∈ ws) : w ≠ [] ∧ IsUnbroken w := by
  induction h with
  | nil => cases hw
  | blank _ _ ih => exact ih hw
  | last hne hunbroken =>
    obtain rfl := List.mem_singleton.1 hw
    exact ⟨hne, hunbroken⟩
  | word hne hunbroken _ _ _ ih =>
    rcases List.mem_cons.1 hw with rfl | hw
    · exact ⟨hne, hunbroken⟩
    · exact ih hw

/-- A word begins with what is no white space, so it does not vanish when white space is dropped. -/
theorem IsCut.exists_of_mem (h : IsCut ws s) (hw : w ∈ ws) : ∃ c ∈ w, isBlank c = false := by
  obtain ⟨hne, hunbroken⟩ := h.word_of_mem hw
  obtain ⟨c, rest, rfl⟩ := List.exists_cons_of_ne_nil hne
  exact ⟨c, List.mem_cons_self, hunbroken.1 rfl⟩

theorem IsCut.depthAfter (h : IsCut ws s) (hws : ∀ w ∈ ws, depthAfter 0 w = 0) :
    depthAfter 0 s = 0 := by
  induction h with
  | nil => rfl
  | blank hb _ ih =>
    rw [depthAfter_cons, turn_of_isBlank hb]
    exact ih hws
  | last _ _ => exact hws _ List.mem_cons_self
  | word _ _ hdepth hb _ ih =>
    rw [depthAfter_append, hdepth, depthAfter_cons, turn_of_isBlank hb]
    exact ih fun w hw => hws w (List.mem_cons_of_mem _ hw)

theorem IsCut.outside (h : IsCut ws s) (hblank : ∀ b, isBlank b = true → P b)
    (hws : ∀ w ∈ ws, Outside P 0 w) : Outside P 0 s := by
  induction h with
  | nil => trivial
  | blank hb _ ih =>
    rw [Outside, turn_of_isBlank hb]
    exact ⟨fun _ => hblank _ hb, ih hws⟩
  | last _ _ => exact hws _ List.mem_cons_self
  | word _ _ hdepth hb _ ih =>
    rw [outside_append, hdepth, Outside, turn_of_isBlank hb]
    exact ⟨hws _ List.mem_cons_self, fun _ => hblank _ hb,
      ih fun w hw => hws w (List.mem_cons_of_mem _ hw)⟩

theorem IsCut.intercalate (h : IsCut ws s) (hvs : vs.Sublist ws) :
    IsCut vs ([' '].intercalate vs) := by
  induction h generalizing vs with
  | nil =>
    obtain rfl := List.sublist_nil.1 hvs
    exact .nil
  | blank _ _ ih => exact ih hvs
  | last hne hunbroken =>
    rcases List.sublist_singleton.1 hvs with rfl | rfl
    · exact .nil
    · rw [List.intercalate_singleton]
      exact .last hne hunbroken
  | word hne hunbroken hdepth _ _ ih =>
    rcases List.sublist_cons_iff.1 hvs with hvs | ⟨us, rfl, hus⟩
    · exact ih hvs
    · cases us with
      | nil =>
        rw [List.intercalate_singleton]
        exact .last hne hunbroken
      | cons u us =>
        rw [List.intercalate_cons_cons, List.append_assoc]
        exact .word hne hunbroken hdepth (b := ' ') (by decide) (ih hus)

theorem topLevelWords_split (hx : depthAfter depth x = 0) (hb : isBlank b = true) :
    topLevelWords depth word (x ++ b :: y) =
      topLevelWords depth word x ++ topLevelWords 0 [] y := by
  induction x generalizing depth word with
  | nil =>
    obtain rfl : depth = 0 := hx
    rw [List.nil_append, topLevelWords_blank hb, topLevelWords]
    split
    · rfl
    · rfl
  | cons c x ih =>
    by_cases hc : depth = 0 ∧ isBlank c = true
    · obtain ⟨rfl, hblank⟩ := hc
      rw [depthAfter_cons, turn_of_isBlank hblank] at hx
      rw [List.cons_append, topLevelWords_blank hblank, topLevelWords_blank hblank, ih hx]
      split
      · rfl
      · rfl
    · have hkeep : depth = 0 → isBlank c = false := by
        intro hd
        exact Bool.eq_false_iff.2 fun hb => hc ⟨hd, hb⟩
      rw [List.cons_append, topLevelWords_keep hkeep, topLevelWords_keep hkeep]
      exact ih hx

theorem topLevelWords_of_blank (h : ∀ c ∈ s, isBlank c = true) : topLevelWords 0 [] s = [] := by
  induction s with
  | nil => rfl
  | cons c s ih =>
    obtain ⟨hc, hs⟩ := List.forall_mem_cons.1 h
    rw [topLevelWords_blank hc]
    exact ih hs

theorem topLevelWords_append_blank (hx : depthAfter depth x = 0)
    (hy : ∀ c ∈ y, isBlank c = true) :
    topLevelWords depth word (x ++ y) = topLevelWords depth word x := by
  cases y with
  | nil => rw [List.append_nil]
  | cons b y =>
    obtain ⟨hb, hy⟩ := List.forall_mem_cons.1 hy
    rw [topLevelWords_split hx hb, topLevelWords_of_blank hy, List.append_nil]

end Words

section Alone

def StartsBlank (s : List Char) : Prop := ∀ b ∈ s.head?, isBlank b = true

def EndsBlank (s : List Char) : Prop := ∀ b ∈ s.getLast?, isBlank b = true

theorem startsBlank_cons : StartsBlank (b :: s) ↔ isBlank b = true := by
  simp [StartsBlank]

theorem EndsBlank.cons (h : EndsBlank s) (hb : s = [] → isBlank b = true) : EndsBlank (b :: s) := by
  intro d hd
  rw [List.getLast?_cons] at hd
  obtain rfl := Option.some.inj hd
  cases s with
  | nil => exact hb rfl
  | cons c s => exact h _ (by simp [List.getLast?_cons])

theorem EndsBlank.tail (h : EndsBlank (b :: s)) : EndsBlank s := by
  cases s with
  | nil => exact fun d hd => nomatch hd
  | cons c s =>
    intro d hd
    rw [← List.getLast?_cons_cons] at hd
    exact h d hd

theorem EndsBlank.append (h : EndsBlank (b :: s)) : EndsBlank (x ++ b :: s) := by
  intro d hd
  rw [List.getLast?_append_of_ne_nil _ (List.cons_ne_nil b s)] at hd
  exact h d hd

/-- The word stands outside of brackets, with white space or an end of the text on either side. -/
def StandsAlone (w s : List Char) : Prop :=
  ∃ p q, s = p ++ (w ++ q) ∧ depthAfter 0 p = 0 ∧ EndsBlank p ∧ StartsBlank q

theorem IsCut.standsAlone (h : IsCut ws s) (hw : w ∈ ws) : StandsAlone w s := by
  induction h with
  | nil => cases hw
  | blank hb _ ih =>
    obtain ⟨p, q, rfl, hdepth, hp, hq⟩ := ih hw
    refine ⟨_ :: p, q, rfl, ?_, hp.cons fun _ => hb, hq⟩
    rw [depthAfter_cons, turn_of_isBlank hb]
    exact hdepth
  | last _ _ =>
    obtain rfl := List.mem_singleton.1 hw
    exact ⟨[], [], by simp, rfl, by simp [EndsBlank], by simp [StartsBlank]⟩
  | @word v b _ s _ _ hv hb _ ih =>
    rcases List.mem_cons.1 hw with rfl | hw
    · exact ⟨[], b :: s, rfl, rfl, by simp [EndsBlank], startsBlank_cons.2 hb⟩
    · obtain ⟨p, q, rfl, hdepth, hp, hq⟩ := ih hw
      refine ⟨v ++ b :: p, q, by simp, ?_, (hp.cons fun _ => hb).append, hq⟩
      rw [depthAfter_append, hv, depthAfter_cons, turn_of_isBlank hb]
      exact hdepth

theorem StandsAlone.mem_topLevelWords (h : StandsAlone w s) (hne : w ≠ [])
    (hw : ∀ c ∈ w, isBlank c = false ∧ c ≠ '<' ∧ c ≠ '>') : w ∈ topLevelWords 0 [] s := by
  obtain ⟨p, q, rfl, hdepth, hp, hq⟩ := h
  have hhere : w ∈ topLevelWords 0 [] (w ++ q) := by
    rw [topLevelWords_append (outside_of_forall fun c hc => (hw c hc).1),
      depthAfter_of_flat fun c hc => (hw c hc).2, List.append_nil]
    cases q with
    | nil => simp [topLevelWords, hne]
    | cons b q => simp [topLevelWords_blank (startsBlank_cons.1 hq), hne]
  rcases p.eq_nil_or_concat with rfl | ⟨p, b, rfl⟩
  · exact hhere
  · rw [List.concat_eq_append] at hp hdepth ⊢
    have hb : isBlank b = true := hp b (by simp)
    rw [depthAfter_append, depthAfter_cons, turn_of_isBlank hb, depthAfter_nil] at hdepth
    rw [List.append_assoc, List.singleton_append, topLevelWords_split hdepth hb]
    exact List.mem_append_right _ hhere

end Alone

end ScriptGlue.CppType

import ScriptGlue.Proofs.CharacterRuns
import ScriptGlue.Proofs.Thinning

namespace ScriptGlue.CppType

open Text

variable {s t v w : List Char} {ws : List (List Char)} {b c : Char} {solid : Bool}

/-- Each mark is a token and so is each maximal run of solid characters. White space separates
them and is none itself. -/
def tokens (s : List Char) : List (List Char) := (runs isSolid s).filter fun w => !w.all isBlank

def isWordToken (w : List Char) : Bool := w.all isSolid

/-- Tokens one after another, with one space between words that are neighbours. -/
def joinTokens : List (List Char) → List Char
  | [] => []
  | [w] => w
  | v :: w :: ws =>
    v ++ (if isWordToken v && isWordToken w then [' '] else []) ++ joinTokens (w :: ws)

section Tokens

theorem tokens_append (h : ∀ a ∈ s.getLast?, isSolid a = true → ∀ b ∈ t.head?, isSolid b = false) :
    tokens (s ++ t) = tokens s ++ tokens t := by
  rw [tokens, runs_append h, List.filter_append]
  rfl

theorem tokens_blank_cons (hb : isBlank b = true) (s : List Char) : tokens (b :: s) = tokens s := by
  rw [tokens, runs_cons (not_isSolid_of_isBlank hb), List.filter_cons]
  simp [hb, tokens]

theorem tokens_append_blank (s : List Char) (hb : isBlank b = true) (t : List Char) :
    tokens (s ++ b :: t) = tokens s ++ tokens t := by
  have hcut : tokens (s ++ b :: t) = tokens s ++ tokens (b :: t) := by
    refine tokens_append fun _ _ _ c hc => ?_
    obtain rfl : b = c := by simpa using hc
    exact not_isSolid_of_isBlank hb
  rw [hcut, tokens_blank_cons hb]

theorem tokens_mark_cons (hc : isMark c = true) (s : List Char) :
    tokens (c :: s) = [c] :: tokens s := by
  rw [tokens, runs_cons (not_isSolid_of_isMark hc), List.filter_cons]
  simp [isBlank_of_isMark hc, tokens]

theorem tokens_word_append (hne : w ≠ []) (hw : ∀ a ∈ w, isSolid a = true)
    (hs : ∀ a ∈ s.head?, isSolid a = false) : tokens (w ++ s) = w :: tokens s := by
  obtain ⟨a, w, rfl⟩ := List.exists_cons_of_ne_nil hne
  have ha : isBlank a = false := (isSolid_eq_true.1 (hw a List.mem_cons_self)).1
  rw [tokens, runs_run_append hne hw hs, List.filter_cons]
  simp [ha, tokens]

end Tokens

section Kept

/-- White space that is dropped or replaced cuts nothing that was one token, and joins nothing:
wherever some stood between two words, some is left. -/
theorem Thins.tokens_append (h : Thins solid t s) {p : List Char}
    (hp : ∀ a ∈ p.getLast?, isSolid a = true → solid = true) :
    tokens (p ++ t) = tokens (p ++ s) := by
  induction h generalizing p with
  | nil => rfl
  | @keep solid c t s _ ih =>
    rw [List.append_cons, List.append_cons p c s]
    refine ih fun a ha hsolid => ?_
    obtain rfl : c = a := by simpa using ha
    exact hsolid
  | blank hb' hb _ ih =>
    rw [tokens_append_blank _ hb', tokens_append_blank _ hb]
    exact congrArg _ (ih (p := []) nofun)
  | @drop solid b t s hb hnext _ ih =>
    rw [tokens_append_blank _ hb, ← List.nil_append s, ← ih (p := []) nofun, List.nil_append]
    exact CppType.tokens_append fun a ha hsolid => hnext (hp a ha hsolid)

theorem Thinner.tokens_eq (h : Thinner t s) : tokens t = tokens s := by
  induction h using Relation.ReflTransGen.head_induction_on with
  | refl => rfl
  | head hthins _ ih => exact (hthins.tokens_append (p := []) nofun).trans ih

end Kept

section Joined

theorem joinTokens_cons_of_not_word (hv : isWordToken v = false) (ws : List (List Char)) :
    joinTokens (v :: ws) = v ++ joinTokens ws := by
  cases ws with
  | nil => rw [joinTokens, joinTokens, List.append_nil]
  | cons w ws => rw [joinTokens, hv, Bool.false_and, if_neg Bool.false_ne_true, List.append_nil]

theorem joinTokens_cons_cons_of_word (hv : isWordToken v = true) (hw : isWordToken w = true)
    (ws : List (List Char)) : joinTokens (v :: w :: ws) = v ++ ' ' :: joinTokens (w :: ws) := by
  rw [joinTokens, hv, hw, Bool.and_self, if_pos rfl, List.append_assoc]
  rfl

theorem joinTokens_cons_cons_of_not_word (hw : isWordToken w = false) (ws : List (List Char)) :
    joinTokens (v :: w :: ws) = v ++ joinTokens (w :: ws) := by
  rw [joinTokens, hw, Bool.and_false, if_neg Bool.false_ne_true, List.append_nil]

/-- The normal form, but for a space that the text may begin with. -/
structure IsSpaced (s : List Char) : Prop where
  last : ∀ c ∈ s.getLast?, isBlank c = false
  spaces : ∀ c ∈ s, isBlank c = true → c = ' '
  fits : s.IsChain Fits

theorem IsSpaced.of_append (h : IsSpaced (w ++ s)) : IsSpaced s where
  last c hc := h.last c (by simp [List.getLast?_append, Option.mem_def.1 hc])
  spaces c hc := h.spaces c (List.mem_append_right w hc)
  fits := h.fits.right_of_append

theorem IsSpaced.tail (h : IsSpaced (c :: s)) : IsSpaced s := h.of_append (w := [c])

theorem IsNormal.isSpaced (h : IsNormal s) : IsSpaced s := ⟨h.trimmed.2, h.spaces, h.fits⟩

theorem IsSpaced.exists_solid (h : IsSpaced (b :: s)) (hb : isBlank b = true) :
    b = ' ' ∧ ∃ c t, s = c :: t ∧ isSolid c = true := by
  refine ⟨h.spaces b List.mem_cons_self hb, ?_⟩
  cases s with
  | nil =>
    rw [h.last b rfl] at hb
    cases hb
  | cons c t => exact ⟨c, t, rfl, (List.isChain_cons_cons.1 h.fits).1.1 hb⟩

theorem exists_tokens_eq (hc : isSolid c = true) (s : List Char) :
    ∃ w ws, tokens (c :: s) = w :: ws ∧ isWordToken w = true := by
  obtain ⟨w, t, hcut, -, hw, ht⟩ := exists_run hc s
  refine ⟨c :: w, tokens t, ?_, List.all_eq_true.2 hw⟩
  rw [hcut, tokens_word_append (List.cons_ne_nil c w) hw ht]

theorem joinTokens_tokens_of_isSpaced (h : IsSpaced s) : joinTokens (tokens s) = trimLeft s := by
  induction s using runs_induction isSolid with
  | nil => rfl
  | outside c s hc ih =>
    cases hb : isBlank c with
    | true =>
      rw [tokens_blank_cons hb, ih h.tail, trimLeft, trimLeft, List.dropWhile_cons_of_pos hb]
    | false =>
      have hm : isMark c = true := by
        simpa [isSolid, hb] using hc
      have hnext : ∀ d ∈ s.head?, isBlank d = false := by
        intro d hd
        cases hblank : isBlank d with
        | false => rfl
        | true =>
          rw [((List.isChain_cons.1 h.fits).1 d hd).2 hblank] at hc
          cases hc
      rw [tokens_mark_cons hm, joinTokens_cons_of_not_word (by simp [isWordToken, hc]), ih h.tail,
        trimLeft, trimLeft, dropWhile_of_head hnext, List.dropWhile_cons_of_neg (by simp [hb])]
      rfl
  | run w s hne hw hs ih =>
    have hstart : trimLeft (w ++ s) = w ++ s := by
      obtain ⟨a, w, rfl⟩ := List.exists_cons_of_ne_nil hne
      exact List.dropWhile_cons_of_neg (by simp [(isSolid_eq_true.1 (hw a List.mem_cons_self)).1])
    have hword : isWordToken w = true := List.all_eq_true.2 hw
    have hrest := ih h.of_append
    rw [tokens_word_append hne hw hs, hstart]
    cases s with
    | nil => rw [List.append_nil]; rfl
    | cons d s =>
      cases hb : isBlank d with
      | true =>
        -- The word after the space is the next token.
        obtain ⟨rfl, c, t, rfl, hc⟩ := h.of_append.exists_solid hb
        obtain ⟨v, vs, htokens, hv⟩ := exists_tokens_eq hc t
        rw [tokens_blank_cons hb, htokens] at hrest ⊢
        rw [joinTokens_cons_cons_of_word hword hv, hrest, trimLeft, List.dropWhile_cons_of_pos hb,
          List.dropWhile_cons_of_neg (by simp [(isSolid_eq_true.1 hc).1])]
      | false =>
        have hd : isSolid d = false := hs d rfl
        have hm : isMark d = true := by
          simpa [isSolid, hb] using hd
        rw [tokens_mark_cons hm] at hrest ⊢
        rw [joinTokens_cons_cons_of_not_word (by simp [isWordToken, hd]), hrest, trimLeft,
          List.dropWhile_cons_of_neg (by simp [hb])]

end Joined

theorem IsNormal.joinTokens_tokens (h : IsNormal s) : joinTokens (tokens s) = s := by
  rw [joinTokens_tokens_of_isSpaced h.isSpaced, trimLeft, dropWhile_of_head h.trimmed.1]

theorem tokens_normalize (s : List Char) : tokens (normalize s) = tokens s :=
  (thinner_normalize s).tokens_eq

theorem normalize_eq_joinTokens (s : List Char) : normalize s = joinTokens (tokens s) := by
  rw [← tokens_normalize, (isNormal_normalize s).joinTokens_tokens]

/-- Normalizing a name makes the text of its tokens, which does not change any more, and is the same
for two names exactly if their tokens are. -/
theorem normalizeName_isCanonical (name : String) :
    normalizeName name = String.ofList (joinTokens (tokens name.toList)) ∧
      normalizeName (normalizeName name) = normalizeName name ∧
      ∀ other, normalizeName name = normalizeName other ↔
        tokens name.toList = tokens other.toList := by
  refine ⟨?_, normalizeName_idem name, fun other => ⟨fun h => ?_, fun h => ?_⟩⟩
  · rw [normalizeName, normalize_eq_joinTokens]
  · rw [normalizeName, normalizeName, String.ofList_inj] at h
    rw [← tokens_normalize, h, tokens_normalize]
  · rw [normalizeName, normalizeName, normalize_eq_joinTokens, h, ← normalize_eq_joinTokens]

example : tokens "const  Vector< unsigned\tint >&".toList =
    ["const", "Vector", "<", "unsigned", "int", ">", "&"].map String.toList := by decide

end ScriptGlue.CppType

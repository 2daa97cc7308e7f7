import Mathlib.Data.List.DropRight
import ScriptGlue.Header.Spelling
import ScriptGlue.Proofs.QualifiedName

namespace ScriptGlue.Spelling

open Text

variable {namespaces : List (List Char)} {left left' : Option Char} {n r s u w : List Char}
  {c : Char}

/-- A name of word characters only. -/
structure IsPlain (n : List Char) : Prop where
  ne_nil : n ≠ []
  word : ∀ a ∈ n, isWord a = true

theorem isNameLetter_of_isWord (hc : isWord c = true) : isNameLetter c = true := by
  rw [isNameLetter, hc, Bool.true_or]

theorem IsPlain.isName (hn : IsPlain n) : IsName n :=
  ⟨hn.ne_nil, fun a ha => isNameLetter_of_isWord (hn.word a ha)⟩

def Opens (left : Option Char) (s : List Char) : Prop := left.any isWord = true → ¬StartsName s

theorem opens_of_mark (hc : isNameLetter c = false) (s : List Char) : Opens (some c) s := by
  intro h
  rw [isNameLetter_of_isWord h] at hc
  cases hc

theorem Opens.any_eq_false (h : Opens left s) (hs : StartsName s) : left.any isWord = false :=
  Bool.eq_false_iff.2 fun hleft => h hleft hs

theorem IsName.eq_of_prefix (hn : IsName n) (hw : IsName w) (hs : ¬StartsName s)
    (h : n ++ scope <+: w ++ s) : n = w ∧ scope <+: s := by
  obtain ⟨r, hr⟩ := h
  rw [List.append_assoc] at hr
  obtain ⟨hnw, hscope⟩ := append_inj_of_head hn.letters hw.letters
    (not_startsName_iff.1 (not_startsName_scope r)) (not_startsName_iff.1 hs) hr
  exact ⟨hnw, r, hscope⟩

section Qualifiers

theorem qualifierLength?_eq_none (h : ∀ n ∈ namespaces, ¬n ++ scope <+: s) :
    qualifierLength? namespaces s = none := by
  rw [qualifierLength?, List.findSome?_eq_none_iff]
  intro n hn
  exact if_neg fun hp => h n hn (List.isPrefixOf_iff_prefix.1 hp)

theorem qualifierLength?_eq_some (hns : ∀ n ∈ namespaces, IsPlain n) (hn : n ∈ namespaces)
    (r : List Char) : qualifierLength? namespaces (n ++ scope ++ r) = some (n.length + 2) := by
  rw [qualifierLength?]
  cases h : namespaces.findSome? _ with
  | none =>
    have hnone : ¬[':', ':'] <+: scope ++ r := by
      simpa using List.findSome?_eq_none_iff.1 h n hn
    exact absurd (List.prefix_append scope r) hnone
  | some k =>
    obtain ⟨m, hm, hk⟩ := List.exists_of_findSome?_eq_some h
    split at hk
    · rename_i hp
      rw [List.append_assoc] at hp
      obtain ⟨rfl, -⟩ := (hns m hm).isName.eq_of_prefix (hns n hn).isName (not_startsName_scope r)
        (List.isPrefixOf_iff_prefix.1 hp)
      exact hk.symm
    · cases hk

end Qualifiers

section Steps

theorem stripFrom_keep
    (h : (∀ n ∈ namespaces, ¬n ++ scope <+: c :: s) ∨ isBoundary left (some c) = false) :
    stripFrom namespaces 0 left (c :: s) = c :: stripFrom namespaces 0 (some c) s := by
  rw [stripFrom]
  rcases h with h | h
  · rw [qualifierLength?_eq_none h]
  · cases qualifierLength? namespaces (c :: s) with
    | none => rfl
    | some k => exact if_neg (by simp [h])

theorem getLast?_cons_or (c : Char) (w : List Char) (left : Option Char) :
    (c :: w).getLast?.or left = w.getLast?.or (some c) := by
  cases w with
  | nil => rfl
  | cons b w => rw [List.getLast?_cons_cons, List.getLast?_cons, Option.some_or, Option.some_or]

theorem stripFrom_skip (w s : List Char) (a : Char) :
    stripFrom namespaces w.length (some a) (w ++ s) =
      stripFrom namespaces 0 (w.getLast?.or (some a)) s := by
  induction w generalizing a with
  | nil => rfl
  | cons b w ih => rw [List.length_cons, List.cons_append, stripFrom, ih, getLast?_cons_or]

theorem stripFrom_congr (h : left.any isWord = left'.any isWord) (s : List Char) :
    stripFrom namespaces 0 left s = stripFrom namespaces 0 left' s := by
  cases s with
  | nil => rfl
  | cons c s => rw [stripFrom, stripFrom, isBoundary, isBoundary, h]

theorem stripFrom_mark (hns : ∀ n ∈ namespaces, IsPlain n) (hc : isNameLetter c = false)
    (left : Option Char) (s : List Char) :
    stripFrom namespaces 0 left (c :: s) = c :: stripFrom namespaces 0 (some c) s := by
  apply stripFrom_keep
  left
  intro n hn hp
  obtain ⟨a, n, rfl⟩ := List.exists_cons_of_ne_nil (hns n hn).ne_nil
  obtain ⟨rfl, -⟩ := List.cons_prefix_cons.1 hp
  rw [(hns _ hn).isName.letters a List.mem_cons_self] at hc
  cases hc

theorem stripFrom_scope (hns : ∀ n ∈ namespaces, IsPlain n) (left : Option Char) (r : List Char) :
    stripFrom namespaces 0 left (scope ++ r) = scope ++ stripFrom namespaces 0 (some ':') r := by
  rw [scope, List.cons_append, stripFrom_mark hns rfl, List.cons_append, stripFrom_mark hns rfl]
  rfl

theorem stripFrom_inside {a : Char} (ha : isWord a = true) (hw : ∀ b ∈ w, isWord b = true)
    (s : List Char) :
    stripFrom namespaces 0 (some a) (w ++ s) =
      w ++ stripFrom namespaces 0 (w.getLast?.or (some a)) s := by
  induction w generalizing a with
  | nil => rfl
  | cons b w ih =>
    obtain ⟨hb, hw⟩ := List.forall_mem_cons.1 hw
    have hinside : isBoundary (some a) (some b) = false := by
      rw [isBoundary, Option.any_some, Option.any_some, ha, hb]
      rfl
    rw [List.cons_append, stripFrom_keep (.inr hinside), ih hb hw, getLast?_cons_or]
    rfl

theorem stripFrom_before (hns : ∀ n ∈ namespaces, IsPlain n) (hu : ∀ a ∈ u, isNameLetter a = true)
    (hlast : ∀ a ∈ u.getLast?, isWord a = false) (left : Option Char) (s : List Char) :
    stripFrom namespaces 0 left (u ++ s) =
      u ++ stripFrom namespaces 0 (u.getLast?.or left) s := by
  induction u generalizing left with
  | nil => rfl
  | cons c u ih =>
    have hnone : ∀ n ∈ namespaces, ¬n ++ scope <+: c :: u ++ s := by
      rintro n hn ⟨r, hr⟩
      have hin : ¬c :: u <+: n := by
        intro hp
        have hmem := hp.subset (List.getLast_mem (List.cons_ne_nil c u))
        have hword := (hns n hn).word _ hmem
        rw [hlast _ (List.getLast?_eq_some_getLast (List.cons_ne_nil c u))] at hword
        cases hword
      rw [List.append_assoc] at hr
      -- The namespace ends inside of the name, where no colon is, or takes in its last character.
      rcases List.append_eq_append_iff.1 hr with ⟨v, hv, hscope⟩ | ⟨v, hv, -⟩
      · cases v with
        | nil => exact hin ⟨[], by rw [hv, List.append_nil, List.append_nil]⟩
        | cons d v =>
          obtain ⟨rfl, -⟩ := List.cons.inj hscope
          have hcolon := hu ':' (hv ▸ List.mem_append_right n List.mem_cons_self)
          cases hcolon
      · exact hin ⟨v, hv.symm⟩
    obtain ⟨-, hu⟩ := List.forall_mem_cons.1 hu
    have hlast : ∀ a ∈ u.getLast?, isWord a = false := by
      intro a ha
      exact hlast a (by rw [List.getLast?_cons, Option.mem_def.1 ha]; rfl)
    have hstep : stripFrom namespaces 0 left (c :: u ++ s) =
        c :: stripFrom namespaces 0 (some c) (u ++ s) := stripFrom_keep (.inl hnone)
    rw [hstep, ih hu hlast, getLast?_cons_or]
    rfl

theorem stripFrom_word (hns : ∀ n ∈ namespaces, IsPlain n) (hw : ∀ a ∈ w, isWord a = true)
    (hs : ¬StartsName s) (h : w ∈ namespaces → ¬scope <+: s) (left : Option Char) :
    stripFrom namespaces 0 left (w ++ s) =
      w ++ stripFrom namespaces 0 (w.getLast?.or left) s := by
  cases w with
  | nil => rfl
  | cons c w =>
    have hplain : IsPlain (c :: w) := ⟨List.cons_ne_nil c w, hw⟩
    have hnone : ∀ n ∈ namespaces, ¬n ++ scope <+: c :: w ++ s := by
      intro n hn hp
      obtain ⟨rfl, hscope⟩ := (hns n hn).isName.eq_of_prefix hplain.isName hs hp
      exact h hn hscope
    obtain ⟨hc, hw⟩ := List.forall_mem_cons.1 hw
    have hstep : stripFrom namespaces 0 left (c :: w ++ s) =
        c :: stripFrom namespaces 0 (some c) (w ++ s) := stripFrom_keep (.inl hnone)
    rw [hstep, stripFrom_inside hc hw, getLast?_cons_or]
    rfl

theorem stripFrom_namespace (hns : ∀ n ∈ namespaces, IsPlain n) (hn : n ∈ namespaces)
    (hleft : left.any isWord = false) (r : List Char) :
    stripFrom namespaces 0 left (n ++ scope ++ r) = stripFrom namespaces 0 (some ':') r := by
  have hlength := qualifierLength?_eq_some hns hn r
  obtain ⟨c, n, rfl⟩ := List.exists_cons_of_ne_nil (hns n hn).ne_nil
  have hopen : isBoundary left (some c) = true := by
    rw [isBoundary, hleft, Option.any_some, (hns _ hn).word c List.mem_cons_self]
    rfl
  have hskip : (c :: n).length + 2 - 1 = (n ++ scope).length := by
    rw [List.length_append]
    rfl
  rw [List.cons_append, List.cons_append] at hlength ⊢
  rw [stripFrom, hlength]
  dsimp only
  rw [if_pos hopen, hskip, stripFrom_skip, List.getLast?_append]
  rfl

end Steps

section Names

def lastWord (w : List Char) : List Char := w.rtakeWhile isWord

theorem lastWord_eq_self (hw : ∀ a ∈ w, isWord a = true) : lastWord w = w :=
  List.rtakeWhile_eq_self_iff.2 hw

theorem any_getLast?_or (hlast : ∀ a ∈ u.getLast?, isWord a = false)
    (hleft : left.any isWord = false) : (u.getLast?.or left).any isWord = false := by
  cases hu : u.getLast? with
  | none => exact hleft
  | some a => exact hlast a hu

theorem IsName.exists_lastWord (hw : IsName w) :
    ∃ u t, w = u ++ t ∧ lastWord w = t ∧ w.rdropWhile isWord = u ∧
      (∀ a ∈ u, isNameLetter a = true) ∧ (∀ a ∈ u.getLast?, isWord a = false) ∧
      ∀ a ∈ t, isWord a = true := by
  refine ⟨_, _, List.rdropWhile_append_rtakeWhile.symm, rfl, rfl, ?_, ?_, ?_⟩
  · intro a ha
    exact hw.letters a ((List.rdropWhile_prefix isWord w).subset ha)
  · intro a ha
    have hne : w.rdropWhile isWord ≠ [] := List.ne_nil_of_mem (List.mem_of_getLast? ha)
    have hlast := List.rdropWhile_last_not isWord w hne
    rw [List.getLast?_eq_some_getLast hne] at ha
    obtain rfl := Option.some.inj ha
    simpa using hlast
  · intro a ha
    exact List.mem_rtakeWhile_imp ha

theorem stripFrom_name (hns : ∀ n ∈ namespaces, IsPlain n) (hw : IsName w) (hs : ¬StartsName s)
    (h : lastWord w ∈ namespaces → ¬scope <+: s) (left : Option Char) :
    stripFrom namespaces 0 left (w ++ s) =
      w ++ stripFrom namespaces 0 (w.getLast?.or left) s := by
  obtain ⟨u, t, rfl, ht, -, hu, hlast, hword⟩ := hw.exists_lastWord
  rw [ht] at h
  rw [List.append_assoc, stripFrom_before hns hu hlast, stripFrom_word hns hword hs h,
    List.getLast?_append, Option.or_assoc, List.append_assoc]

theorem stripFrom_qualifier (hns : ∀ n ∈ namespaces, IsPlain n) (hw : IsName w)
    (hleft : left.any isWord = false) (h : lastWord w ∈ namespaces) (r : List Char) :
    stripFrom namespaces 0 left (w ++ scope ++ r) =
      w.rdropWhile isWord ++ stripFrom namespaces 0 (some ':') r := by
  obtain ⟨u, t, rfl, ht, hdrop, hu, hlast, -⟩ := hw.exists_lastWord
  rw [ht] at h
  rw [hdrop, List.append_assoc, List.append_assoc, stripFrom_before hns hu hlast,
    ← List.append_assoc, stripFrom_namespace hns h (any_getLast?_or hlast hleft)]

theorem stripFrom_name_scope (hns : ∀ n ∈ namespaces, IsPlain n) (hw : IsName w)
    (h : lastWord w ∉ namespaces) (left : Option Char) (r : List Char) :
    stripFrom namespaces 0 left (w ++ scope ++ r) =
      w ++ scope ++ stripFrom namespaces 0 (some ':') r := by
  rw [List.append_assoc, stripFrom_name hns hw (not_startsName_scope r) fun hm => absurd hm h,
    stripFrom_scope hns, List.append_assoc]

end Names

section Spellings

variable (hns : ∀ n ∈ namespaces, IsPlain n)

include hns

theorem rdropWhile_of_mem (hw : w ∈ namespaces) : w.rdropWhile isWord = [] :=
  List.rdropWhile_eq_nil_iff.2 (hns w hw).word

theorem not_mem_of_lastWord (h : lastWord w ∉ namespaces) : w ∉ namespaces := by
  intro hw
  rw [lastWord_eq_self (hns w hw).word] at h
  exact h hw

theorem length_stripFrom_le (hs : IsScoped s) (hleft : Opens left s) :
    (stripFrom namespaces 0 left s).length ≤ (freed namespaces s).length := by
  induction hs using IsScoped.induction generalizing left with
  | nil => exact Nat.le_refl _
  | mark c s _ _ hc ih =>
    rw [stripFrom_mark hns hc, freed_mark hc, List.length_cons, List.length_cons]
    exact Nat.succ_le_succ (ih (opens_of_mark hc s))
  | last w s _ _ hw hs hscope ih =>
    rw [stripFrom_name hns hw hs fun _ => hscope, freed_last hw hs hscope, List.length_append,
      List.length_append]
    exact Nat.add_le_add_left (ih fun _ => hs) _
  | scope w r _ _ hw hr ih =>
    have hrest := ih (opens_of_mark (c := ':') rfl r)
    by_cases hm : lastWord w ∈ namespaces
    · have hopen := hleft.any_eq_false (hw.startsName_append r)
      rw [stripFrom_qualifier hns hw hopen hm, freed_scope hw hr, List.length_append,
        List.length_append]
      apply Nat.add_le_add _ hrest
      split
      · rename_i hw
        rw [rdropWhile_of_mem hns hw]
      · apply List.IsPrefix.length_le
        exact (List.rdropWhile_prefix isWord w).trans (List.prefix_append w scope)
    · rw [stripFrom_name_scope hns hw hm, freed_scope hw hr, if_neg (not_mem_of_lastWord hns hm)]
      simp only [List.length_append]
      exact Nat.add_le_add_left hrest _

/-- Names lose exactly those scopes that are namespaces, unless one merely ends in a namespace. -/
theorem stripFrom_eq_freed_iff (hs : IsScoped s) (hleft : Opens left s) :
    stripFrom namespaces 0 left s = freed namespaces s ↔
      ∀ w ∈ scopes s, lastWord w ∈ namespaces → lastWord w = w := by
  induction hs using IsScoped.induction generalizing left with
  | nil => exact iff_of_true rfl nofun
  | mark c s _ _ hc ih =>
    rw [stripFrom_mark hns hc, freed_mark hc, scopes_mark hc, List.cons_inj_right]
    exact ih (opens_of_mark hc s)
  | last w s _ _ hw hs hscope ih =>
    rw [stripFrom_name hns hw hs fun _ => hscope, freed_last hw hs hscope,
      scopes_last hw hs hscope, List.append_cancel_left_eq]
    exact ih fun _ => hs
  | scope w r _ hs hw hr ih =>
    have hopen : Opens (some ':') r := opens_of_mark rfl r
    rw [freed_scope hw hr, scopes_scope hw hr, List.forall_mem_cons]
    by_cases hm : lastWord w ∈ namespaces
    · rw [stripFrom_qualifier hns hw (hleft.any_eq_false (hw.startsName_append r)) hm]
      by_cases hword : lastWord w = w
      · rw [if_pos (hword ▸ hm), rdropWhile_of_mem hns (hword ▸ hm), List.nil_append,
          List.nil_append, ih hopen]
        exact (and_iff_right fun _ => hword).symm
      · -- The scope is cut off in the middle, and no later one makes up for what is missing.
        have hw' : w ∉ namespaces := fun h => hword (lastWord_eq_self (hns w h).word)
        have hshorter : (w.rdropWhile isWord).length ≤ w.length :=
          (List.rdropWhile_prefix isWord w).length_le
        have hrest := length_stripFrom_le hns hs hopen
        refine iff_of_false (fun h => ?_) fun h => hword (h.1 hm)
        have hlength := congrArg List.length h
        rw [if_neg hw', List.length_append, List.length_append, List.length_append] at hlength
        have htwo : scope.length = 2 := rfl
        omega
    · rw [stripFrom_name_scope hns hw hm, if_neg (not_mem_of_lastWord hns hm),
        List.append_cancel_left_eq, ih hopen]
      exact (and_iff_right fun h => absurd h hm).symm

theorem startsName_stripFrom (hs : IsScoped s) (hleft : Opens left s) (h : StartsName s) :
    StartsName (stripFrom namespaces 0 left s) := by
  induction hs using IsScoped.induction generalizing left with
  | nil => cases h
  | mark c s _ _ hc =>
    rw [StartsName, List.head?_cons, Option.any_some, hc] at h
    cases h
  | last w s _ _ hw hs hscope =>
    rw [stripFrom_name hns hw hs fun _ => hscope]
    exact hw.startsName.append _
  | scope w r _ _ hw hr ih =>
    by_cases hm : lastWord w ∈ namespaces
    · rw [stripFrom_qualifier hns hw (hleft.any_eq_false h) hm]
      cases hu : w.rdropWhile isWord with
      | nil => exact ih (opens_of_mark rfl r) hr
      | cons c u =>
        have hc : c ∈ w := (List.rdropWhile_prefix isWord w).subset (hu ▸ List.mem_cons_self)
        exact hw.letters c hc
    · rw [stripFrom_name_scope hns hw hm]
      exact (hw.startsName.append _).append _

theorem head?_stripFrom (hs : IsScoped s) (hleft : Opens left s)
    (h : ¬StartsName (stripFrom namespaces 0 left s)) :
    (stripFrom namespaces 0 left s).head? = s.head? := by
  cases s with
  | nil => rfl
  | cons c s =>
    have hc : isNameLetter c = false :=
      Bool.eq_false_iff.2 fun hc => h (startsName_stripFrom hns hs hleft hc)
    rw [stripFrom_mark hns hc]
    rfl

theorem not_scope_stripFrom (hs : IsScoped s) (hstart : ¬StartsName s) (h : ¬scope <+: s)
    (left : Option Char) :
    ¬StartsName (stripFrom namespaces 0 left s) ∧ ¬scope <+: stripFrom namespaces 0 left s := by
  cases s with
  | nil => exact ⟨hstart, h⟩
  | cons c s =>
    have hc : isNameLetter c = false := not_startsName_iff.1 hstart c rfl
    rw [stripFrom_mark hns hc]
    refine ⟨hstart, fun hscope => ?_⟩
    obtain ⟨rfl, hcolon⟩ := List.cons_prefix_cons.1 hscope
    obtain ⟨r, hr⟩ := hcolon
    have hhead : (stripFrom namespaces 0 (some ':') s).head? = s.head? := by
      apply head?_stripFrom hns (hs.of_suffix (List.suffix_cons _ s)) (opens_of_mark hc s)
      rw [← hr]
      nofun
    rw [← hr] at hhead
    cases s with
    | nil => cases hhead
    | cons d s =>
      obtain rfl := Option.some.inj hhead
      exact h ⟨s, rfl⟩

theorem stripFrom_stripFrom (hs : IsScoped s) (hleft : Opens left s) :
    stripFrom namespaces 0 left (stripFrom namespaces 0 left s) =
      stripFrom namespaces 0 left s := by
  induction hs using IsScoped.induction generalizing left with
  | nil => rfl
  | mark c s _ _ hc ih =>
    rw [stripFrom_mark hns hc, stripFrom_mark hns hc, ih (opens_of_mark hc s)]
  | last w s _ hs hw hstart hscope ih =>
    obtain ⟨hstart', hscope'⟩ := not_scope_stripFrom hns hs hstart hscope (w.getLast?.or left)
    rw [stripFrom_name hns hw hstart fun _ => hscope,
      stripFrom_name hns hw hstart' fun _ => hscope', ih fun _ => hstart]
  | scope w r _ _ hw hr ih =>
    have hopen : Opens (some ':') r := opens_of_mark rfl r
    by_cases hm : lastWord w ∈ namespaces
    · have hleft := hleft.any_eq_false (hw.startsName_append r)
      obtain ⟨u, t, -, -, hdrop, hu, hlast, -⟩ := hw.exists_lastWord
      -- The text that is left has other characters before it now, and no word among them.
      have hsame (s : List Char) : stripFrom namespaces 0 (u.getLast?.or left) s =
          stripFrom namespaces 0 (some ':') s := stripFrom_congr (any_getLast?_or hlast hleft) s
      rw [stripFrom_qualifier hns hw hleft hm, hdrop, stripFrom_before hns hu hlast, hsame,
        ih hopen]
    · rw [stripFrom_name_scope hns hw hm, stripFrom_name_scope hns hw hm, ih hopen]

end Spellings

section Strip

variable {names : List String} {spelling : String}

theorem toList_strip (hn : ∀ n ∈ names, IsPlain n.toList) (spelling : String) :
    (strip names spelling).toList =
      stripFrom (names.map String.toList) 0 none spelling.toList := by
  have hall : (names.map String.toList).filter (!·.isEmpty) = names.map String.toList := by
    rw [List.filter_eq_self, List.forall_mem_map]
    intro n hm
    simpa using (hn n hm).ne_nil
  rw [strip, hall, String.toList_ofList]

/-- Every qualified name loses those of its scopes that are namespaces, and nothing else changes,
exactly if no scope merely ends in a namespace, with a letter before it that is no word character.
A second time changes nothing in any case. -/
theorem strip_frees_iff (hn : ∀ n ∈ names, IsPlain n.toList) (hs : IsScoped spelling.toList) :
    ((strip names spelling).toList = freed (names.map String.toList) spelling.toList ↔
      ∀ w ∈ scopes spelling.toList,
        lastWord w ∈ names.map String.toList → lastWord w = w) ∧
      strip names (strip names spelling) = strip names spelling := by
  have hns : ∀ n ∈ names.map String.toList, IsPlain n := List.forall_mem_map.2 hn
  refine ⟨?_, ?_⟩
  · rw [toList_strip hn]
    exact stripFrom_eq_freed_iff hns hs nofun
  · rw [← String.toList_inj, toList_strip hn, toList_strip hn]
    exact stripFrom_stripFrom hns hs nofun

/-- Scopes that merely begin or end with the name of a namespace stay, and so does a last part. -/
theorem strip_frees_iff_keys :
    let names := ["Urho3D", "Urho", "std"]
    let spelling := "const Urho3D::Urho3D::Map<MyUrho3D::Key, नया::Urho::Urho3DX::std>&"
    (∀ n ∈ names, IsPlain n.toList) ∧ IsScoped spelling.toList ∧
      scopes spelling.toList =
        ["Urho3D", "Urho3D", "MyUrho3D", "नया", "Urho", "Urho3DX"].map String.toList ∧
      (strip names spelling).toList = "const Map<MyUrho3D::Key, नया::Urho3DX::std>&".toList ∧
      strip names (strip names spelling) = strip names spelling := by
  intro names spelling
  have hn : ∀ n ∈ names, IsPlain n.toList := by
    simp only [names, List.forall_mem_cons]
    exact ⟨⟨by decide, List.all_eq_true.1 rfl⟩, ⟨by decide, List.all_eq_true.1 rfl⟩,
      ⟨by decide, List.all_eq_true.1 rfl⟩, nofun⟩
  have hs : IsScoped spelling.toList := by decide +kernel
  have hscopes : scopes spelling.toList =
      ["Urho3D", "Urho3D", "MyUrho3D", "नया", "Urho", "Urho3DX"].map String.toList := by
    decide +kernel
  obtain ⟨hfrees, hagain⟩ := strip_frees_iff hn hs
  refine ⟨hn, hs, hscopes, ?_, hagain⟩
  rw [hfrees.2 (by rw [hscopes]; decide +kernel)]
  decide +kernel

/-- Identifiers go on with the signs of vowels, which are no word characters. What comes after such
a sign is taken for a namespace. -/
theorem strip_cuts_identifier :
    let spelling := "नयाUrho3D::Node"
    isIdentifier "नयाUrho3D".toList = true ∧ isIdentifier "Node".toList = true ∧
      IsPlain "Urho3D".toList ∧ IsScoped spelling.toList ∧
      freed ["Urho3D".toList] spelling.toList = spelling.toList ∧
      strip ["Urho3D"] spelling = "नयाNode" ∧
      (strip ["Urho3D"] spelling).toList ≠ freed ["Urho3D".toList] spelling.toList := by
  intro spelling
  have hfreed : freed ["Urho3D".toList] spelling.toList = spelling.toList := by decide +kernel
  have hstrip : strip ["Urho3D"] spelling = "नयाNode" := by decide +kernel
  refine ⟨by decide +kernel, by decide, ⟨by decide, List.all_eq_true.1 rfl⟩, by decide +kernel,
    hfreed, hstrip, ?_⟩
  rw [hfreed, hstrip]
  decide

end Strip

end ScriptGlue.Spelling

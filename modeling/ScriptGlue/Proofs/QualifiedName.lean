import Mathlib.Data.List.Infix
import ScriptGlue.Proofs.CharacterRuns
import ScriptGlue.Text.Word

namespace ScriptGlue.Spelling

open Text

variable {namespaces : List (List Char)} {r s t w : List Char} {c : Char}

/-- What names are made of. Identifiers go on with marks and joiners that are no word characters. -/
def isNameLetter (c : Char) : Bool := isWord c || continuesIdentifier c

structure IsName (w : List Char) : Prop where
  ne_nil : w ≠ []
  letters : ∀ a ∈ w, isNameLetter a = true

def StartsName (s : List Char) : Prop := s.head?.any isNameLetter = true

def scope : List Char := [':', ':']

/-- A name stands right behind every scope operator. -/
def IsScoped (s : List Char) : Prop := ∀ r, scope ++ r <:+ s → StartsName r

instance (s : List Char) : Decidable (StartsName s) := inferInstanceAs (Decidable (_ = true))

instance (s : List Char) : Decidable (IsScoped s) :=
  decidable_of_iff (∀ t ∈ s.tails, scope <+: t → StartsName (t.drop 2)) (by
    simp only [List.mem_tails]
    constructor
    · intro h r hr
      exact h _ hr (List.prefix_append scope r)
    · rintro h t ht ⟨r, rfl⟩
      exact h r ht)

/-- A name with the scopes that it is qualified by, or a character between the names. -/
inductive Piece where
  | name (scopes : List (List Char)) (last : List Char)
  | mark (c : Char)

namespace Piece

def text : Piece → List Char
  | name scopes last => scopes.flatMap (· ++ scope) ++ last
  | mark c => [c]

def scopes : Piece → List (List Char)
  | name scopes _ => scopes
  | mark _ => []

def without (namespaces : List (List Char)) : Piece → Piece
  | name scopes last => name (scopes.filter (· ∉ namespaces)) last
  | mark c => mark c

end Piece

/-- A name in front of pieces. It is a scope of the name that comes after a scope operator. -/
def qualify (w : List Char) : List Piece → List Piece
  | .mark ':' :: .mark ':' :: .name scopes last :: ps => .name (w :: scopes) last :: ps
  | ps => .name [] w :: ps

def precede (w : List Char) (ps : List Piece) : List Piece :=
  if w.all isNameLetter then qualify w ps else w.map .mark ++ ps

def pieces (s : List Char) : List Piece := (runs isNameLetter s).foldr precede []

/-- Every qualified name without those of its scopes that are among the namespaces. -/
def freed (namespaces : List (List Char)) (s : List Char) : List Char :=
  (pieces s).flatMap fun p => (p.without namespaces).text

def scopes (s : List Char) : List (List Char) := (pieces s).flatMap Piece.scopes

theorem not_startsName_iff : ¬StartsName s ↔ ∀ a ∈ s.head?, isNameLetter a = false := by
  cases s with
  | nil => simp [StartsName]
  | cons c s => simp [StartsName]

theorem IsName.startsName (hw : IsName w) : StartsName w := by
  obtain ⟨c, w, rfl⟩ := List.exists_cons_of_ne_nil hw.ne_nil
  exact hw.letters c List.mem_cons_self

theorem StartsName.append (h : StartsName s) (t : List Char) : StartsName (s ++ t) := by
  cases s with
  | nil => cases h
  | cons c s => exact h

theorem IsName.startsName_append (hw : IsName w) (r : List Char) : StartsName (w ++ scope ++ r) :=
  (hw.startsName.append scope).append r

theorem not_startsName_scope (r : List Char) : ¬StartsName (scope ++ r) := nofun

theorem StartsName.exists_name (h : StartsName s) :
    ∃ w t, s = w ++ t ∧ IsName w ∧ ¬StartsName t := by
  cases s with
  | nil => cases h
  | cons c s =>
    obtain ⟨w, t, hcut, -, hw, ht⟩ := exists_run (p := isNameLetter) h s
    exact ⟨c :: w, t, hcut, ⟨List.cons_ne_nil c w, hw⟩, not_startsName_iff.2 ht⟩

theorem IsScoped.of_suffix (h : IsScoped s) (ht : t <:+ s) : IsScoped t :=
  fun r hr => h r (hr.trans ht)

/-- A spelling is taken apart from its head, a character or a name with the scope operator after it
at a time. -/
theorem IsScoped.induction {P : ∀ s, IsScoped s → Prop} (nil : ∀ h, P [] h)
    (mark : ∀ c s h (hs : IsScoped s), isNameLetter c = false → P s hs → P (c :: s) h)
    (last : ∀ w s h (hs : IsScoped s), IsName w → ¬StartsName s → ¬scope <+: s → P s hs →
      P (w ++ s) h)
    (scope : ∀ w r h (hr : IsScoped r), IsName w → StartsName r → P r hr →
      P (w ++ scope ++ r) h) (hs : IsScoped s) : P s hs := by
  induction hn : s.length using Nat.strong_induction_on generalizing s with
  | _ n ih =>
    have hrest {t : List Char} (ht : t <:+ s) (hlt : t.length < s.length) :
        P t (hs.of_suffix ht) := ih _ (hn ▸ hlt) (hs.of_suffix ht) rfl
    by_cases hstart : StartsName s
    · obtain ⟨w, t, rfl, hw, ht⟩ := hstart.exists_name
      have hpos : 0 < w.length := List.length_pos_iff.2 hw.ne_nil
      by_cases hscope : Spelling.scope <+: t
      · obtain ⟨r, rfl⟩ := hscope
        have hr : StartsName r := hs r (List.suffix_append w _)
        have hsuffix : r <:+ w ++ (Spelling.scope ++ r) :=
          (List.suffix_append _ r).trans (List.suffix_append w _)
        have hP := hrest hsuffix (by
          rw [List.length_append, List.length_append]
          omega)
        simpa only [List.append_assoc] using
          scope w r (by rwa [List.append_assoc]) _ hw hr hP
      · exact last w t hs _ hw ht hscope (hrest (List.suffix_append w t) (by
          rw [List.length_append]
          omega))
    · cases s with
      | nil => exact nil hs
      | cons c s =>
        exact mark c s hs _ (not_startsName_iff.1 hstart c rfl)
          (hrest (List.suffix_cons c s) (Nat.lt_succ_self _))

section Pieces

theorem text_qualify (w : List Char) (ps : List Piece) :
    (qualify w ps).flatMap Piece.text = w ++ ps.flatMap Piece.text := by
  fun_cases qualify w ps with
  | case1 scopes last ps =>
    simp only [List.flatMap_cons, Piece.text, scope, List.append_assoc, List.cons_append,
      List.nil_append]
  | case2 => rfl

theorem text_precede (w : List Char) (ps : List Piece) :
    (precede w ps).flatMap Piece.text = w ++ ps.flatMap Piece.text := by
  rw [precede]
  split
  · exact text_qualify w ps
  · rw [List.flatMap_append, List.flatMap_map]
    exact congrArg (· ++ _) (List.flatMap_singleton' w)

theorem text_pieces (s : List Char) : (pieces s).flatMap Piece.text = s := by
  suffices ∀ ws : List (List Char), (ws.foldr precede []).flatMap Piece.text = ws.flatten by
    rw [pieces, this, flatten_runs]
  intro ws
  induction ws with
  | nil => rfl
  | cons w ws ih => rw [List.foldr_cons, text_precede, ih, List.flatten_cons]

theorem pieces_mark (hc : isNameLetter c = false) (s : List Char) :
    pieces (c :: s) = .mark c :: pieces s := by
  rw [pieces, runs_cons hc, List.foldr_cons, precede, if_neg (by simp [hc])]
  rfl

theorem pieces_run (hw : IsName w) (hs : ¬StartsName s) :
    pieces (w ++ s) = qualify w (pieces s) := by
  rw [pieces, runs_run_append hw.ne_nil hw.letters (not_startsName_iff.1 hs), List.foldr_cons,
    precede, if_pos (List.all_eq_true.2 hw.letters)]
  rfl

theorem qualify_eq_name (w : List Char) (ps : List Piece) :
    ∃ scopes last rest, qualify w ps = .name scopes last :: rest := by
  fun_cases qualify w ps with
  | case1 scopes last ps => exact ⟨_, _, _, rfl⟩
  | case2 => exact ⟨_, _, _, rfl⟩

theorem StartsName.pieces_eq (h : StartsName s) :
    ∃ scopes last ps, pieces s = .name scopes last :: ps := by
  obtain ⟨w, t, rfl, hw, ht⟩ := h.exists_name
  rw [pieces_run hw ht]
  exact qualify_eq_name w (pieces t)

theorem pieces_scope_append (r : List Char) :
    pieces (scope ++ r) = .mark ':' :: .mark ':' :: pieces r := by
  rw [scope, List.cons_append, List.cons_append, pieces_mark rfl, pieces_mark rfl]
  rfl

theorem pieces_scope (hw : IsName w) {ns : List (List Char)} {last : List Char}
    {ps : List Piece} (hr : pieces r = .name ns last :: ps) :
    pieces (w ++ scope ++ r) = .name (w :: ns) last :: ps := by
  rw [List.append_assoc, pieces_run hw (not_startsName_scope r), pieces_scope_append, hr]
  rfl

theorem pieces_last (hw : IsName w) (hs : ¬StartsName s) (hscope : ¬scope <+: s) :
    pieces (w ++ s) = .name [] w :: pieces s := by
  have htext := text_pieces s
  rw [pieces_run hw hs]
  -- What the pieces begin with is what the text begins with.
  generalize pieces s = ps at htext ⊢
  fun_cases qualify w ps with
  | case1 scopes last ps => exact absurd ⟨_, htext⟩ hscope
  | case2 => rfl

end Pieces

section Freed

theorem freed_mark (hc : isNameLetter c = false) (s : List Char) :
    freed namespaces (c :: s) = c :: freed namespaces s := by
  rw [freed, pieces_mark hc]
  rfl

theorem freed_last (hw : IsName w) (hs : ¬StartsName s) (hscope : ¬scope <+: s) :
    freed namespaces (w ++ s) = w ++ freed namespaces s := by
  rw [freed, pieces_last hw hs hscope]
  rfl

theorem freed_scope (hw : IsName w) (hr : StartsName r) :
    freed namespaces (w ++ scope ++ r) =
      (if w ∈ namespaces then [] else w ++ scope) ++ freed namespaces r := by
  obtain ⟨ns, last, ps, hpieces⟩ := hr.pieces_eq
  rw [freed, freed, pieces_scope hw hpieces, hpieces]
  by_cases hm : w ∈ namespaces
  · simp [Piece.without, Piece.text, hm]
  · simp [Piece.without, Piece.text, hm]

theorem scopes_mark (hc : isNameLetter c = false) (s : List Char) :
    scopes (c :: s) = scopes s := by
  rw [scopes, pieces_mark hc]
  rfl

theorem scopes_last (hw : IsName w) (hs : ¬StartsName s) (hscope : ¬scope <+: s) :
    scopes (w ++ s) = scopes s := by
  rw [scopes, pieces_last hw hs hscope]
  rfl

theorem scopes_scope (hw : IsName w) (hr : StartsName r) :
    scopes (w ++ scope ++ r) = w :: scopes r := by
  obtain ⟨ns, last, ps, hpieces⟩ := hr.pieces_eq
  rw [scopes, scopes, pieces_scope hw hpieces, hpieces]
  rfl

end Freed

end ScriptGlue.Spelling

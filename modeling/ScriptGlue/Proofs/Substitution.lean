import ScriptGlue.Proofs.CharacterRuns
import ScriptGlue.Proofs.Classification
import ScriptGlue.Proofs.Table
import ScriptGlue.Proofs.WellTyped

namespace ScriptGlue

namespace Text

variable {s w : List Char} {c : Char}

/-- The maximal runs of word characters, with every other character alone between them. -/
def wordRuns (s : List Char) : List (List Char) := s.splitBy fun a b => isWord a && isWord b

def StartsOutside (s : List Char) : Prop := ∀ a ∈ s.head?, isWord a = false

theorem startsOutside_iff : StartsOutside s ↔ s.head?.any isWord = false := by
  cases s with
  | nil => simp [StartsOutside]
  | cons c s => simp [StartsOutside]

theorem wordRuns_eq_runs (s : List Char) : wordRuns s = runs isWord s := rfl

/-- Puts something for every word and every other character, all at once. -/
def substitute (f : List Char → List Char) (s : List Char) : List Char := (wordRuns s).flatMap f

theorem substitute_cons (f : List Char → List Char) (hc : isWord c = false) (s : List Char) :
    substitute f (c :: s) = f [c] ++ substitute f s := by
  rw [substitute, wordRuns_eq_runs, runs_cons hc, List.flatMap_cons]
  rfl

theorem substitute_append (f : List Char → List Char) (t : List Char) (hs : StartsOutside s) :
    substitute f (t ++ s) = substitute f t ++ substitute f s := by
  rw [substitute, wordRuns_eq_runs, runs_append fun _ _ _ => hs, List.flatMap_append]
  rfl

theorem substitute_word (f : List Char → List Char) (hne : w ≠ [])
    (hw : ∀ a ∈ w, isWord a = true) : substitute f w = f w := by
  rw [substitute, wordRuns_eq_runs, runs_run hne hw, List.flatMap_singleton]

theorem substitute_eq_self {f : List Char → List Char} (h : ∀ r ∈ wordRuns s, f r = r) :
    substitute f s = s := by
  rw [substitute, List.flatMap_congr h, List.flatMap_id', wordRuns_eq_runs, flatten_runs]

end Text

namespace Specialization

open Text

variable {param concrete : List Char} {s : List Char} {left : Option Char}

theorem expand_map_character (matched q : List Char) :
    Replacement.expand matched (q.map .character) = q := by
  rw [Replacement.expand, List.flatMap_map]
  exact List.flatMap_singleton' q

theorem replaceWord_skip (pieces : List ReplacementPiece) (w s : List Char) (a : Char) :
    replaceWord param pieces w.length (some a) (w ++ s) =
      replaceWord param pieces 0 (some ((a :: w).getLast (List.cons_ne_nil a w))) s := by
  induction w generalizing a with
  | nil => rfl
  | cons b w ih =>
    rw [List.length_cons, List.cons_append, replaceWord, ih]
    rfl

theorem replaceWord_inside (hne : param ≠ []) (pieces : List ReplacementPiece) {a : Char}
    (ha : isWord a = true) {w : List Char} (hw : ∀ b ∈ w, isWord b = true) (s : List Char) :
    replaceWord param pieces 0 (some a) (w ++ s) =
      w ++ replaceWord param pieces 0 (some ((a :: w).getLast (List.cons_ne_nil a w))) s := by
  obtain ⟨p, ps, rfl⟩ := List.exists_cons_of_ne_nil hne
  induction w generalizing a with
  | nil => rfl
  | cons b w ih =>
    obtain ⟨hb, hw⟩ := List.forall_mem_cons.1 hw
    have hboundary : isBoundary (some a) (some b) = false := by
      rw [isBoundary, Option.any_some, Option.any_some, ha, hb]
      rfl
    rw [List.cons_append, replaceWord]
    split
    · rw [hboundary, Bool.false_and, if_neg Bool.false_ne_true, ih hb hw]
      rfl
    · rw [ih hb hw]
      rfl

theorem replaceWord_outside (hne : param ≠ []) (hp : ∀ a ∈ param, isWord a = true)
    (pieces : List ReplacementPiece) {c : Char} (hc : isWord c = false) (s : List Char) :
    replaceWord param pieces 0 left (c :: s) =
      c :: replaceWord param pieces 0 (some c) s := by
  obtain ⟨p, ps, rfl⟩ := List.exists_cons_of_ne_nil hne
  have hpc : p ≠ c := by
    rintro rfl
    rw [hp p List.mem_cons_self] at hc
    cases hc
  have hprefix : (p :: ps).isPrefixOf? (c :: s) = none := by
    simp [List.isPrefixOf?, hpc]
  rw [replaceWord, hprefix]

theorem replaceWord_word (hne : param ≠ []) (hp : ∀ a ∈ param, isWord a = true)
    (pieces : List ReplacementPiece) {w : List Char} (hw : w ≠ [])
    (hword : ∀ a ∈ w, isWord a = true) (hs : StartsOutside s) (hleft : left.any isWord = false) :
    replaceWord param pieces 0 left (w ++ s) =
      (if w = param then Replacement.expand param pieces else w) ++
        replaceWord param pieces 0 (some (w.getLast hw)) s := by
  obtain ⟨p, ps, rfl⟩ := List.exists_cons_of_ne_nil hne
  obtain ⟨a, w, rfl⟩ := List.exists_cons_of_ne_nil hw
  obtain ⟨ha, htail⟩ := List.forall_mem_cons.1 hword
  have hopen : isBoundary left (some a) = true := by
    rw [isBoundary, hleft, Option.any_some, ha]
    rfl
  have hlast : (ps.getLast?.or (some p)).any isWord = true := by
    cases hps : ps.getLast? with
    | none => exact hp p List.mem_cons_self
    | some b => exact hp b (List.mem_cons_of_mem p (List.mem_of_getLast? hps))
  have hclose (rest : List Char) (h : (p :: ps) ++ rest = a :: w ++ s) :
      isBoundary (ps.getLast?.or (some p)) rest.head? = true ↔ a :: w = p :: ps ∧ rest = s := by
    rw [isBoundary, hlast]
    constructor
    · intro hrest
      have hrest : StartsOutside rest := startsOutside_iff.2 (by simpa using hrest)
      obtain ⟨hword, hs⟩ := append_inj_of_head hp hword hrest hs h
      exact ⟨hword.symm, hs⟩
    · rintro ⟨-, rfl⟩
      rw [startsOutside_iff.1 hs]
      rfl
  rw [List.cons_append, replaceWord]
  split
  · rename_i rest hprefix
    rw [List.isPrefixOf?_eq_some_iff_append_eq] at hprefix
    rw [hopen, Bool.true_and]
    by_cases hparam : a :: w = p :: ps
    · have hrest : rest = s := by
        rw [← List.cons_append, hparam] at hprefix
        exact List.append_cancel_left hprefix
      rw [if_pos hparam, if_pos ((hclose rest hprefix).2 ⟨hparam, hrest⟩)]
      cases hparam
      rw [replaceWord_skip]
    · rw [if_neg hparam, if_neg fun h => hparam ((hclose rest hprefix).1 h).1,
        replaceWord_inside hne pieces ha htail s]
      rfl
  · rename_i hprefix
    have hparam : ¬ a :: w = p :: ps := by
      intro he
      rw [← List.cons_append, he, List.isPrefixOf?_eq_some_iff_append_eq.2 rfl] at hprefix
      cases hprefix
    rw [if_neg hparam, replaceWord_inside hne pieces ha htail s]
    rfl

def exchange (param concrete : List Char) (g : List Char → List Char) (r : List Char) :
    List Char :=
  if r = param then concrete else g r

theorem exchange_outside (hp : ∀ a ∈ param, isWord a = true) {c : Char} (hc : isWord c = false)
    (concrete : List Char) (g : List Char → List Char) : exchange param concrete g [c] = g [c] := by
  apply if_neg
  rintro rfl
  rw [hp c List.mem_cons_self] at hc
  cases hc

theorem replaceWord_eq (hne : param ≠ []) (hp : ∀ a ∈ param, isWord a = true) (q s : List Char)
    (hleft : left.any isWord = true → StartsOutside s) :
    replaceWord param (q.map .character) 0 left s = substitute (exchange param q id) s := by
  induction s using runs_induction isWord generalizing left with
  | nil =>
    rw [replaceWord, List.isEmpty_eq_false_iff.2 hne]
    rfl
  | outside c s hc ih =>
    have hopen : (some c).any isWord = true → StartsOutside s := fun h => absurd h (by simp [hc])
    rw [replaceWord_outside hne hp _ hc, ih hopen, substitute_cons _ hc, exchange_outside hp hc]
    rfl
  | run w s hw hword hs ih =>
    have hleft : left.any isWord = false := by
      obtain ⟨a, w, rfl⟩ := List.exists_cons_of_ne_nil hw
      rw [← Bool.not_eq_true]
      intro h
      have ha := hleft h a rfl
      rw [hword a List.mem_cons_self] at ha
      cases ha
    rw [replaceWord_word hne hp _ hw hword hs hleft, ih fun _ => hs, substitute_append _ w hs,
      substitute_word _ hw hword, expand_map_character]
    rfl

theorem startsOutside_substitute (hp : ∀ a ∈ param, isWord a = true) (concrete : List Char)
    (hs : StartsOutside s) : StartsOutside (substitute (exchange param concrete id) s) := by
  cases s with
  | nil => exact hs
  | cons c s =>
    have hc := hs c rfl
    rw [substitute_cons _ hc, exchange_outside hp hc]
    exact hs

/-- A substitution after that of a parameter is one substitution, if it changes nothing in the text
for the parameter: neither end of that text meets a word. -/
theorem substitute_exchange (hp : ∀ a ∈ param, isWord a = true)
    {g : List Char → List Char} (hg : ∀ r ∈ wordRuns concrete, g r = r) (s : List Char) :
    substitute g (substitute (exchange param concrete id) s) =
      substitute (exchange param concrete g) s := by
  induction s using runs_induction isWord with
  | nil => rfl
  | outside c s hc ih =>
    rw [substitute_cons _ hc, substitute_cons _ hc, exchange_outside hp hc, exchange_outside hp hc,
      ← ih]
    exact substitute_cons g hc _
  | run w s hw hword hs ih =>
    have hrest := startsOutside_substitute hp concrete hs
    rw [substitute_append _ w hs, substitute_append _ w hs, substitute_append _ _ hrest, ih,
      substitute_word _ hw hword, substitute_word _ hw hword, exchange, exchange]
    split
    · rw [substitute_eq_self hg]
    · rw [id, substitute_word _ hw hword]

/-- What the entries put for a word; anything else stays. -/
def concreteText (es : List (Key × Attribute)) (r : List Char) : List Char :=
  ((es.lookup (.text (String.ofList r))).map (·.shown.toList)).getD r

/-- Each entry puts a text for a word. The text has no backslash, and none of its words is one that
an entry puts something for. -/
def IsSettled (es : List (Key × Attribute)) : Prop :=
  ∀ e ∈ es, ∃ param concrete, e = (.text param, .string concrete) ∧
    (param.toList ≠ [] ∧ ∀ a ∈ param.toList, isWord a = true) ∧ '\\' ∉ concrete.toList ∧
    ∀ r ∈ wordRuns concrete.toList, .text (String.ofList r) ∉ es.map (·.1)

theorem step_eq {p q : String} (hne : p.toList ≠ []) (hp : ∀ a ∈ p.toList, isWord a = true)
    (hq : '\\' ∉ q.toList) (spelling : String) :
    step spelling (.text p, .string q) =
      .ok (String.ofList (substitute (exchange p.toList q.toList id) spelling.toList)) := by
  have hread : Replacement.read q = .ok (q.toList.map .character) := Replacement.readFrom_eq hq
  have hleft : (none : Option Char).any isWord = true → StartsOutside spelling.toList := nofun
  rw [step, hread, ← replaceWord_eq hne hp q.toList spelling.toList hleft]
  rfl

theorem concreteText_cons (p q : String) (es : List (Key × Attribute)) :
    concreteText ((.text p, .string q) :: es) = exchange p.toList q.toList (concreteText es) := by
  funext r
  have hkey : Key.text (String.ofList r) = .text p ↔ r = p.toList := by
    rw [Key.text.injEq, ← String.toList_inj, String.toList_ofList]
  rw [concreteText, Table.lookup_entry, exchange]
  simp only [hkey]
  split
  · rfl
  · rfl

theorem concreteText_eq_self {es : List (Key × Attribute)} {r : List Char}
    (h : .text (String.ofList r) ∉ es.map (·.1)) : concreteText es r = r := by
  have hnone : es.lookup (.text (String.ofList r)) = none := by
    rw [List.lookup_eq_none_iff]
    intro e he
    rw [bne_iff_ne]
    intro hk
    exact h (List.mem_map.2 ⟨e, he, hk.symm⟩)
  rw [concreteText, hnone]
  rfl

theorem foldlM_step {es : List (Key × Attribute)} (h : IsSettled es) (spelling : String) :
    es.foldlM step spelling =
      .ok (String.ofList (substitute (concreteText es) spelling.toList)) := by
  induction es generalizing spelling with
  | nil =>
    have hself : substitute (concreteText []) spelling.toList = spelling.toList :=
      substitute_eq_self fun _ _ => rfl
    rw [hself, String.ofList_toList]
    rfl
  | cons e es ih =>
    obtain ⟨p, q, rfl, ⟨hne, hp⟩, hq, hwords⟩ := h e List.mem_cons_self
    have hsettled : IsSettled es := by
      intro e he
      obtain ⟨p', q', rfl, hp', hq', hwords'⟩ := h e (List.mem_cons_of_mem _ he)
      exact ⟨p', q', rfl, hp', hq', fun r hr hm => hwords' r hr (List.mem_cons_of_mem _ hm)⟩
    have hkept : ∀ r ∈ wordRuns q.toList, concreteText es r = r := by
      intro r hr
      exact concreteText_eq_self fun hm => hwords r hr (List.mem_cons_of_mem _ hm)
    rw [List.foldlM_cons, step_eq hne hp hq]
    refine (ih hsettled _).trans ?_
    rw [String.toList_ofList, substitute_exchange hp hkept, concreteText_cons]

theorem IsSettled.perm {es es' : List (Key × Attribute)} (h : IsSettled es)
    (hperm : es'.Perm es) : IsSettled es' := by
  intro e he
  obtain ⟨p, q, rfl, hp, hq, hwords⟩ := h e (hperm.mem_iff.1 he)
  exact ⟨p, q, rfl, hp, hq, fun r hr hm => hwords r hr ((hperm.map _).mem_iff.1 hm)⟩

theorem concreteText_perm {t t' : Table Key Attribute} (hn : t.keys.Nodup)
    (hperm : t'.entries.Perm t.entries) : concreteText t'.entries = concreteText t.entries := by
  have hn' : t'.keys.Nodup := (hperm.map _).nodup_iff.2 hn
  have hget (k : Key) : t'.entries.lookup k = t.entries.lookup k := by
    apply Option.ext
    intro v
    have hmem : (k, v) ∈ t'.entries ↔ (k, v) ∈ t.entries := hperm.mem_iff
    exact (Table.get?_eq_some_iff hn').trans (hmem.trans (Table.get?_eq_some_iff hn).symm)
  funext r
  rw [concreteText, concreteText, hget]

/-- Putting a text for one parameter after another puts all of them at once, in any order of the
parameters. -/
theorem apply_eq_substitute {t : Table Key Attribute} (h : IsSettled t.entries)
    (spelling : String) :
    apply t spelling =
        .ok (String.ofList (substitute (concreteText t.entries) spelling.toList)) ∧
      (t.keys.Nodup → ∀ t' : Table Key Attribute, t'.entries.Perm t.entries →
        apply t' spelling = apply t spelling) := by
  refine ⟨foldlM_step h spelling, ?_⟩
  intro hn t' hperm
  rw [apply, apply, foldlM_step h, foldlM_step (h.perm hperm), concreteText_perm hn hperm]

/-- What stands for the parameters of a template of two types. -/
def pairTexts : Table Key Attribute := ⟨[(.text "T", "Pair<TX, XT>"), (.text "TT", "Node")]⟩

theorem isSettled_pairTexts : IsSettled pairTexts.entries := by
  refine List.forall_mem_cons.2 ⟨?_, List.forall_mem_singleton.2 ?_⟩
  · exact ⟨"T", "Pair<TX, XT>", rfl, ⟨by decide, List.all_eq_true.1 rfl⟩, by decide, by decide⟩
  · exact ⟨"TT", "Node", rfl, ⟨by decide, List.all_eq_true.1 rfl⟩, by decide, by decide⟩

theorem apply_eq_substitute_pairTexts :
    IsSettled pairTexts.entries ∧ pairTexts.keys.Nodup ∧
      apply pairTexts "const Map<T, TT*>&" = .ok "const Map<Pair<TX, XT>, Node*>&" ∧
      apply ⟨pairTexts.entries.reverse⟩ "const Map<T, TT*>&" =
        .ok "const Map<Pair<TX, XT>, Node*>&" := by
  have hn : pairTexts.keys.Nodup := by decide
  obtain ⟨htext, horder⟩ := apply_eq_substitute isSettled_pairTexts "const Map<T, TT*>&"
  have htext : apply pairTexts "const Map<T, TT*>&" = .ok "const Map<Pair<TX, XT>, Node*>&" :=
    htext.trans rfl
  exact ⟨isSettled_pairTexts, hn, htext,
    (horder hn ⟨_⟩ (List.reverse_perm _)).trans htext⟩

end Specialization

end ScriptGlue

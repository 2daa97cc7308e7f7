import ScriptGlue.Header.Spelling
import ScriptGlue.Proofs.CharacterRuns

namespace ScriptGlue.Spelling

open Text

variable {left right : Option Char} {s t v w : List Char} {ws : List (List Char)}

/-- The maximal runs of word characters. -/
def wordsOf (s : List Char) : List (List Char) := (runs isWord s).filter (·.all isWord)

/-- A space where both neighbours are word characters, and nothing elsewhere. -/
def gap (left right : Option Char) : List Char :=
  if left.any isWord && right.any isWord then [' '] else []

/-- Tokens one after another, with the gaps between the neighbours. -/
def spaced : List (List Char) → List Char
  | [] => []
  | [w] => w
  | v :: w :: ws => v ++ gap v.getLast? w.head? ++ spaced (w :: ws)

section Words

theorem wordsOf_append (h : gap s.getLast? t.head? = []) :
    wordsOf (s ++ t) = wordsOf s ++ wordsOf t := by
  have hcut : runs isWord (s ++ t) = runs isWord s ++ runs isWord t := by
    apply runs_append
    intro a ha hword b hb
    rw [Option.mem_def.1 ha, Option.mem_def.1 hb, gap, Option.any_some, Option.any_some,
      hword] at h
    simpa using h
  rw [wordsOf, hcut, List.filter_append]
  rfl

theorem wordsOf_space (s : List Char) : wordsOf (' ' :: s) = wordsOf s := by
  have hspace : isWord ' ' = false := rfl
  rw [wordsOf, runs_cons hspace, List.filter_cons_of_neg (by simp [hspace])]
  rfl

theorem wordsOf_gap (s t : List Char) :
    wordsOf (s ++ gap s.getLast? t.head? ++ t) = wordsOf s ++ wordsOf t := by
  by_cases h : s.getLast?.any isWord && t.head?.any isWord
  · have hspace : gap s.getLast? (' ' :: t).head? = [] := by
      apply if_neg
      rw [List.head?_cons, Option.any_some, show isWord ' ' = false from rfl, Bool.and_false]
      exact Bool.false_ne_true
    rw [gap, if_pos h, List.append_assoc, List.singleton_append, wordsOf_append hspace,
      wordsOf_space]
  · have hgap : gap s.getLast? t.head? = [] := if_neg h
    rw [hgap, List.append_nil, wordsOf_append hgap]

end Words

section Tokens

theorem head?_spaced (hw : w ≠ []) (ws : List (List Char)) :
    (spaced (w :: ws)).head? = w.head? := by
  cases ws with
  | nil => rfl
  | cons v vs => rw [spaced, List.append_assoc, List.head?_append_of_ne_nil _ hw]

theorem wordsOf_spaced (h : [] ∉ ws) : wordsOf (spaced ws) = ws.flatMap wordsOf := by
  induction ws with
  | nil => rfl
  | cons v ws ih =>
    obtain ⟨-, hws⟩ := not_or.1 (mt List.mem_cons.2 h)
    cases ws with
    | nil => rw [spaced, List.flatMap_singleton]
    | cons w ws =>
      have hw : w ≠ [] := Ne.symm (not_or.1 (mt List.mem_cons.2 hws)).1
      rw [spaced, ← head?_spaced hw ws, wordsOf_gap, ih hws]
      rfl

theorem joinFrom_token (hw : w ≠ []) (left : Option Char) (ws : List (List Char)) :
    joinFrom left (w :: ws) =
      (joinFrom w.getLast? ws).map fun rest => gap left w.head? ++ w ++ rest := by
  obtain ⟨c, cs, rfl⟩ := List.exists_cons_of_ne_nil hw
  have hlast : (c :: cs).getLast?.or left = (c :: cs).getLast? := by
    rw [List.getLast?_cons, Option.some_or]
  rw [joinFrom, hlast, gap, List.head?_cons, Option.any_some]
  cases joinFrom (c :: cs).getLast? ws with
  | none => cases left.any isWord <;> rfl
  | some rest => cases left.any isWord <;> rfl

/-- The last character so far is that of the token before, so that the next gap is the one between
two neighbours. -/
theorem joinFrom_cons (h : [] ∉ w :: ws) (left : Option Char) :
    joinFrom left (w :: ws) = some (gap left w.head? ++ spaced (w :: ws)) := by
  induction ws generalizing w left with
  | nil =>
    have hw : w ≠ [] := Ne.symm (not_or.1 (mt List.mem_cons.2 h)).1
    rw [joinFrom_token hw, joinFrom, Option.map_some, List.append_nil, spaced]
  | cons v vs ih =>
    obtain ⟨hw, hws⟩ := not_or.1 (mt List.mem_cons.2 h)
    rw [joinFrom_token (Ne.symm hw), ih hws, Option.map_some, spaced, List.append_assoc,
      List.append_assoc]

theorem joinFrom_eq (h : [] ∉ ws) : joinFrom none ws = some (spaced ws) := by
  cases ws with
  | nil => rfl
  | cons w ws => exact joinFrom_cons h none

theorem nil_not_mem {tokens : List String} (h : "" ∉ tokens) : [] ∉ tokens.map String.toList := by
  intro hm
  obtain ⟨tok, htok, hnil⟩ := List.mem_map.1 hm
  exact h (String.toList_eq_nil_iff.1 hnil ▸ htok)

theorem joinTokens?_eq {tokens : List String} (h : "" ∉ tokens) :
    joinTokens? tokens = some (String.ofList (spaced (tokens.map String.toList))) := by
  rw [joinTokens?, joinFrom_eq (nil_not_mem h), Option.map_some]

end Tokens

/-- Tokens that are not empty are joined to a text with exactly their words, and with one space
wherever two of these would have become one. -/
theorem joinTokens?_keepsWords {tokens : List String} (h : "" ∉ tokens) :
    ∃ text, joinTokens? tokens = some text ∧
      text.toList = spaced (tokens.map String.toList) ∧
      wordsOf text.toList = tokens.flatMap fun tok => wordsOf tok.toList := by
  refine ⟨_, joinTokens?_eq h, String.toList_ofList, ?_⟩
  rw [String.toList_ofList, wordsOf_spaced (nil_not_mem h), List.flatMap_map]

/-- A space inside of a token is kept, and does not come between a quote and a word. -/
theorem joinTokens?_keepsWords_call :
    let tokens := ["unsigned", "int", "(", "\"a b\"", "_s", "->", "x2", ")"]
    "" ∉ tokens ∧ ∃ text, joinTokens? tokens = some text ∧ text = "unsigned int(\"a b\"_s->x2)" ∧
      wordsOf text.toList = ["unsigned", "int", "a", "b", "_s", "x2"].map String.toList := by
  intro tokens
  have hne : "" ∉ tokens := by decide
  obtain ⟨text, hjoined, htext, hwords⟩ := joinTokens?_keepsWords hne
  refine ⟨hne, text, hjoined, ?_, hwords⟩
  rw [← String.ofList_toList (s := text), htext]
  rfl

end ScriptGlue.Spelling

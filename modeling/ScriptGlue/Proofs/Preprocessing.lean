import ScriptGlue.Proofs.InertText
import ScriptGlue.Proofs.Separation

namespace ScriptGlue

namespace Preprocessor

inductive Directive where
  | ifdef (symbol : String)
  | endif
  | other

/-- What a line asks of the preprocessor. An include line stays where it is. -/
def directive? (line : List Char) : Option Directive :=
  match line.dropWhile (· == ' ') with
  | '#' :: rest =>
    match "ifdef ".toList.isPrefixOf? rest with
    | some symbol => some (.ifdef (String.ofList symbol))
    | none =>
      if rest == "endif".toList then some .endif
      else if "include ".toList.isPrefixOf rest then none
      else some .other
  | _ => none

/-- The lines that are compiled, if each group is closed before the next one is opened. `group?`
tells of an open group whether its macro is defined. -/
def compiled? (defined : String → Bool) (group? : Option Bool) :
    List (List Char) → Option (List (List Char))
  | [] => if group?.isNone then some [] else none
  | l :: ls =>
    match directive? l with
    | none =>
      (compiled? defined group? ls).map fun kept => if group? == some false then kept else l :: kept
    | some (.ifdef symbol) =>
      if group?.isNone then compiled? defined (some (defined symbol)) ls else none
    | some .endif => if group?.isSome then compiled? defined none ls else none
    | some .other => none

def lines (text : String) : List (List Char) := (Text.unixLines text.toList).splitOn '\n'

variable {defined : String → Bool} {group? : Option Bool} {l : List Char}
  {ls rest : List (List Char)}

theorem directive?_of_not_mem (h : '#' ∉ l) : directive? l = none := by
  rw [directive?]
  split
  · rename_i rest hrest
    have hm : '#' ∈ l.dropWhile (· == ' ') := by
      rw [hrest]
      exact List.mem_cons_self
    exact absurd ((List.dropWhile_suffix _).subset hm) h
  · rfl

theorem compiled?_append (h : ∀ l ∈ ls, directive? l = none) :
    compiled? defined group? (ls ++ rest) = (compiled? defined group? rest).map fun kept =>
      if group? == some false then kept else ls ++ kept := by
  induction ls with
  | nil => simp
  | cons l ls ih =>
    obtain ⟨hl, hls⟩ := List.forall_mem_cons.1 h
    rw [List.cons_append, compiled?, hl]
    dsimp only
    rw [ih hls, Option.map_map]
    refine congrArg (Option.map · _) (funext fun kept => ?_)
    rw [Function.comp_apply]
    split
    · rfl
    · rfl

theorem compiled?_of_forall (h : ∀ l ∈ ls, directive? l = none) :
    compiled? defined none ls = some ls := by
  have hlines : compiled? defined none (ls ++ []) = _ := compiled?_append h
  rw [List.append_nil] at hlines
  rw [hlines, compiled?, Option.isNone_none, if_pos rfl, Option.map_some, List.append_nil]
  rfl

theorem compiled?_unopened (h : ∀ l ∈ ls, directive? l = none) :
    compiled? defined none (ls ++ "#endif".toList :: rest) = none := by
  have hclose : directive? "#endif".toList = some .endif := rfl
  rw [compiled?_append h, compiled?, hclose]
  rfl

theorem compiled?_group {symbol : String} (h : ∀ l ∈ ls, directive? l = none) :
    compiled? defined none (("#ifdef " ++ symbol).toList :: ls ++ "#endif".toList :: rest) =
      (compiled? defined none rest).map fun kept =>
        if defined symbol then ls ++ kept else kept := by
  have hopen : directive? ("#ifdef " ++ symbol).toList = some (.ifdef symbol) := by
    rw [String.toList_append]
    change some (Directive.ifdef (String.ofList symbol.toList)) = _
    rw [String.ofList_toList]
  have hclose : directive? "#endif".toList = some .endif := rfl
  rw [List.cons_append, compiled?, hopen]
  dsimp only
  rw [Option.isNone_none, if_pos rfl, compiled?_append h, compiled?, hclose]
  dsimp only
  rw [Option.isSome_some, if_pos rfl]
  cases defined symbol with
  | true => rfl
  | false => rfl

end Preprocessor

open Preprocessor

/-- A part of the generated source: code, which is guarded or not. -/
structure Segment where
  guard? : Option String := none
  code : String

namespace Segment

def text (s : Segment) : String := Template.guarded s.guard? s.code

/-- What is left of the part under the macros. -/
def under (defined : String → Bool) (s : Segment) : Segment where
  code := if Template.isCompiled defined s.guard? then s.code else ""

/-- The code is made of whole lines without directives, and so is the guard of one line. -/
structure IsSound (s : Segment) : Prop where
  whole : Text.IsWhole s.code
  code : ∀ l ∈ s.code.toList.splitOn '\n', directive? l = none
  unix : '\r' ∉ s.code.toList
  guard : ∀ g, s.guard? = some g → Text.IsInertLine g

variable {defined : String → Bool} {s : Segment} {ss : List Segment} {rest left last : List Char}

theorem text_unguarded (h : s.guard? = none) : s.text = s.code := by
  rw [text, Template.guarded_eq, h]
  rfl

theorem exists_lines (h : s.IsSound) : ∃ ls, (∀ l ∈ ls, directive? l = none) ∧
    ∀ rest : List Char, (s.code.toList ++ rest).splitOn '\n' = ls ++ rest.splitOn '\n' := by
  rcases h.whole with hlast | hlast
  · refine ⟨[], by simp, fun rest => ?_⟩
    rw [List.getLast?_eq_none_iff.1 hlast]
    rfl
  · obtain ⟨t, ht⟩ := List.getLast?_eq_some_iff.1 hlast
    have hlines : ∀ rest : List Char, (s.code.toList ++ rest).splitOn '\n' =
        t.splitOn '\n' ++ rest.splitOn '\n' := by
      intro rest
      rw [ht, List.append_assoc]
      exact List.splitOn_append_cons_self t rest
    have hcode := hlines []
    rw [List.append_nil] at hcode
    refine ⟨t.splitOn '\n', fun l hl => h.code l ?_, hlines⟩
    rw [hcode]
    exact List.mem_append_left _ hl

theorem isSound_of_isInert (h : Text.IsInert s.code) (hw : Text.IsWhole s.code)
    (hg : ∀ g, s.guard? = some g → Text.IsInertLine g) : s.IsSound where
  whole := hw
  code _ hl := directive?_of_not_mem fun hc => (h '#' ((Text.of_mem_splitOn hl).1.subset hc)).1 rfl
  unix hc := (h '\r' hc).2 rfl
  guard := hg

theorem isSound_unguarded {code : String} (h : Text.IsInert code) (hw : Text.IsWhole code) :
    IsSound { code } :=
  isSound_of_isInert h hw (by simp)

theorem isSound_line {line : String} (h : '\n' ∉ line.toList) (hr : '\r' ∉ line.toList)
    (hd : directive? line.toList = none) : IsSound { code := line ++ "\n" } where
  whole := .ending line (by decide)
  unix := by simp [hr]
  code l hl := by
    dsimp only at hl
    rw [String.toList_append] at hl
    change l ∈ (line.toList ++ '\n' :: []).splitOn '\n' at hl
    rw [List.splitOn_append_cons_self, List.splitOn_eq_singleton h, List.splitOn_nil] at hl
    rcases List.mem_cons.1 hl with rfl | hl
    · exact hd
    · rw [List.mem_singleton.1 hl]
      rfl
  guard g hs := by cases hs

theorem unix_text (h : s.IsSound) : '\r' ∉ s.text.toList := by
  rw [text, Template.guarded_eq]
  cases hg : given? s.guard? with
  | none => exact h.unix
  | some g =>
    have hguard : '\r' ∉ g.toList := fun hc =>
      ((h.guard g (given?_eq_some hg)).inert '\r' hc).2 rfl
    simp [hguard, h.unix]

theorem compiled?_text (h : s.IsSound)
    (hrest : compiled? defined none (rest.splitOn '\n') = some (left.splitOn '\n')) :
    compiled? defined none ((s.text.toList ++ rest).splitOn '\n') =
      some (((s.under defined).text.toList ++ left).splitOn '\n') := by
  obtain ⟨ls, hls, hlines⟩ := exists_lines h
  -- What is left of the part has no guard, so that its lines are the same ones or none.
  have hunder : ((s.under defined).text.toList ++ left).splitOn '\n' =
      if Template.isCompiled defined s.guard? then ls ++ left.splitOn '\n'
      else left.splitOn '\n' := by
    rw [text_unguarded rfl, under]
    split
    · exact hlines left
    · rfl
  rw [hunder, text, Template.guarded_eq, Template.isCompiled]
  cases hg : given? s.guard? with
  | none =>
    rw [hlines, compiled?_append hls, hrest]
    rfl
  | some g =>
    have hguard : '\n' ∉ ("#ifdef " ++ g).toList := by
      rw [String.toList_append, List.mem_append, not_or]
      exact ⟨by decide, (h.guard g (given?_eq_some hg)).oneLine⟩
    have hsplit : (("#ifdef " ++ g ++ "\n" ++ s.code ++ "#endif\n").toList ++ rest).splitOn '\n' =
        ("#ifdef " ++ g).toList :: ls ++ "#endif".toList :: rest.splitOn '\n' := by
      have hclose : ("#endif\n".toList ++ rest).splitOn '\n' =
          "#endif".toList :: rest.splitOn '\n' :=
        List.splitOn_append_cons_self "#endif".toList rest
      have hopen := List.splitOn_append_cons_self (a := '\n') ("#ifdef " ++ g).toList
        (s.code.toList ++ ("#endif\n".toList ++ rest))
      rw [List.splitOn_eq_singleton hguard, hlines, hclose] at hopen
      rw [← List.singleton_append, List.append_assoc, ← hopen]
      simp only [String.toList_append, List.append_assoc]
      rfl
    rw [hsplit, compiled?_group hls, hrest]
    rfl

theorem compiled?_texts (hss : ∀ s ∈ ss, s.IsSound) (hlast : '#' ∉ last) :
    compiled? defined none ((ss.flatMap (·.text.toList) ++ last).splitOn '\n') =
      some ((ss.flatMap (fun s => (s.under defined).text.toList) ++ last).splitOn '\n') := by
  induction ss with
  | nil =>
    exact compiled?_of_forall fun l hl =>
      directive?_of_not_mem fun hc => hlast ((Text.of_mem_splitOn hl).1.subset hc)
  | cons s ss ih =>
    obtain ⟨hs, hss⟩ := List.forall_mem_cons.1 hss
    have hrest := ih hss
    rw [List.flatMap_cons, List.flatMap_cons, List.append_assoc, List.append_assoc]
    exact compiled?_text hs hrest

end Segment

end ScriptGlue

import Mathlib.Data.List.Infix
import ScriptGlue.Header.Discovery
import ScriptGlue.Proofs.FileChanges
import ScriptGlue.Proofs.Grouping

namespace ScriptGlue

section Erasing

variable {α : Type u} {β : Type v} [BEq β] [LawfulBEq β] {f : α → List β} {R : β → β → Prop}

/-- Of lists that are sorted, one after the other and each item only where it is met first, an item
comes before another if it is met in an earlier list, or in the same list and before it. -/
theorem pairwise_eraseDups_flatMap (hf : ∀ a, (f a).Pairwise R) (as : List α) (q : β → Bool) :
    ((as.flatMap f).filter q).eraseDups.Pairwise fun b c =>
      as.findIdx (b ∈ f ·) < as.findIdx (c ∈ f ·) ∨
        as.findIdx (b ∈ f ·) = as.findIdx (c ∈ f ·) ∧ R b c := by
  induction as generalizing q with
  | nil => exact .nil
  | cons a as ih =>
    have hhead {b : β} (hb : b ∈ f a) : (a :: as).findIdx (b ∈ f ·) = 0 := by
      rw [List.findIdx_cons, decide_eq_true hb]
      rfl
    have htail {b : β} (hb : b ∉ f a) :
        (a :: as).findIdx (b ∈ f ·) = as.findIdx (b ∈ f ·) + 1 := by
      rw [List.findIdx_cons, decide_eq_false hb]
      rfl
    have hfirst {b : β} (hb : b ∈ ((f a).filter q).eraseDups) : b ∈ f a :=
      List.mem_of_mem_filter (List.mem_eraseDups.1 hb)
    have hlater {b : β}
        (hb : b ∈ (((as.flatMap f).filter q).removeAll ((f a).filter q)).eraseDups) :
        b ∉ f a := by
      rw [List.mem_eraseDups, List.removeAll, List.mem_filter, List.mem_filter] at hb
      intro hm
      simp [hm, hb.1.2] at hb
    -- The items of the first list come first, and the others are those that are not in it.
    rw [List.flatMap_cons, List.filter_append, List.eraseDups_append, List.pairwise_append]
    refine ⟨?_, ?_, ?_⟩
    · have hsub := (Table.eraseDups_sublist ((f a).filter q)).trans List.filter_sublist
      have hsorted := (hf a).sublist hsub
      refine hsorted.imp_of_mem fun hb hc hR => .inr ⟨?_, hR⟩
      rw [hhead (hfirst hb), hhead (hfirst hc)]
    · have hsorted := ih fun b => !((f a).filter q).elem b && q b
      rw [← List.filter_filter, ← List.removeAll] at hsorted
      refine hsorted.imp_of_mem fun hb hc hR => ?_
      rw [htail (hlater hb), htail (hlater hc)]
      exact hR.imp Nat.succ_lt_succ (And.imp_left (congrArg _))
    · intro b hb c hc
      rw [hhead (hfirst hb), htail (hlater hc)]
      exact .inl (Nat.succ_pos _)

end Erasing

namespace Path

theorem partsLe_total (as bs : List String) : partsLe as bs = true ∨ partsLe bs as = true := by
  induction as generalizing bs with
  | nil => exact .inl rfl
  | cons a as ih =>
    cases bs with
    | nil => exact .inr rfl
    | cons b bs =>
      simp only [partsLe, Bool.or_eq_true, Bool.and_eq_true, decide_eq_true_eq, beq_iff_eq]
      by_cases hab : a = b
      · exact (ih bs).imp (fun h => .inr ⟨hab, h⟩) fun h => .inr ⟨hab.symm, h⟩
      · refine (String.le_total a b).imp (fun hle => .inl ?_) fun hle => .inl ?_
        · by_contra hlt
          exact hab (String.le_antisymm hle (String.not_lt.1 hlt))
        · by_contra hlt
          exact hab (String.le_antisymm (String.not_lt.1 hlt) hle)

theorem partsLe_trans (as bs cs : List String) (hab : partsLe as bs = true)
    (hbc : partsLe bs cs = true) : partsLe as cs = true := by
  induction as generalizing bs cs with
  | nil => rfl
  | cons a as ih =>
    cases bs with
    | nil => cases hab
    | cons b bs =>
      cases cs with
      | nil => cases hbc
      | cons c cs =>
        simp only [partsLe, Bool.or_eq_true, Bool.and_eq_true, decide_eq_true_eq, beq_iff_eq]
          at hab hbc ⊢
        rcases hab with hab | ⟨rfl, hab⟩
        · rcases hbc with hbc | ⟨rfl, -⟩
          · exact .inl (String.lt_trans hab hbc)
          · exact .inl hab
        · exact hbc.imp_right (And.imp_right (ih bs cs hab))

theorem partsLe_antisymm {as bs : List String} (hab : partsLe as bs = true)
    (hba : partsLe bs as = true) : as = bs := by
  induction as generalizing bs with
  | nil =>
    cases bs with
    | nil => rfl
    | cons b bs => cases hba
  | cons a as ih =>
    cases bs with
    | nil => cases hab
    | cons b bs =>
      simp only [partsLe, Bool.or_eq_true, Bool.and_eq_true, decide_eq_true_eq, beq_iff_eq]
        at hab hba
      rcases hab with hab | ⟨rfl, hab⟩
      · rcases hba with hba | ⟨rfl, -⟩
        · exact absurd hba (String.lt_asymm hab)
        · exact absurd hab (String.lt_irrefl _)
      · rcases hba with hba | ⟨-, hba⟩
        · exact absurd hba (String.lt_irrefl a)
        · rw [ih hab hba]

end Path

namespace FileTree

variable {t : FileTree} {p : Path} {l l' d : Location} {s : String}

theorem isSome_item?_iff (h : l ≠ []) : (t.item? l).isSome ↔ l ∈ t.entries.map (·.1) := by
  rw [item?, if_neg (by simpa using h), List.lookup_isSome_iff, List.mem_map]
  exact exists_congr fun e => and_congr_right fun _ => beq_iff_eq.trans eq_comm

theorem mem_below : l ∈ t.below d ↔ (t.item? l).isSome ∧ d <+: l ∧ d ≠ l := by
  rw [below, List.mem_filter, Bool.and_eq_true, List.isPrefixOf_iff_prefix, decide_eq_true_eq]
  have hproper (h : d <+: l) : d.length < l.length ↔ d ≠ l :=
    ⟨fun hlt heq => Nat.ne_of_lt hlt (congrArg _ heq),
      fun hne => Nat.lt_of_le_of_ne h.length_le fun heq => hne (h.eq_of_length heq)⟩
  have hne (h : d.length < l.length) : l ≠ [] :=
    List.ne_nil_of_length_pos (Nat.zero_lt_of_lt h)
  constructor
  · rintro ⟨hl, hd, hlt⟩
    exact ⟨(isSome_item?_iff (hne hlt)).2 hl, hd, (hproper hd).1 hlt⟩
  · rintro ⟨hl, hd, hdl⟩
    have hlt := (hproper hd).2 hdl
    exact ⟨(isSome_item?_iff (hne hlt)).1 hl, hd, hlt⟩

/-- All above a location that a path leads to are directories. -/
def IsBelowDirectories (t : FileTree) (l : Location) : Prop :=
  ∀ d, d <+: l → d ≠ l → t.isDirectory d = true

theorem IsBelowDirectories.step {part : String} (h : t.IsBelowDirectories l)
    (hs : t.step l part = .ok l') : t.IsBelowDirectories l' := by
  obtain ⟨hl, rfl⟩ := step_eq_ok hs
  intro d hd hne
  have habove : d <+: l := by
    rw [next] at hd hne
    split at hd
    · exact hd.trans (List.dropLast_prefix l)
    · rename_i hpart
      rw [if_neg hpart] at hne
      exact (List.prefix_concat_iff.1 (by simpa using hd)).resolve_left hne
  by_cases heq : d = l
  · rw [heq]
    exact hl
  · exact h d habove heq

theorem IsBelowDirectories.walk {parts : List String} (h : t.IsBelowDirectories l)
    (hw : parts.foldlM (t.step · ·) l = .ok l') : t.IsBelowDirectories l' := by
  induction parts generalizing l with
  | nil => exact Except.ok.inj hw ▸ h
  | cons part parts ih =>
    rw [List.foldlM_cons] at hw
    obtain ⟨m, hs, hw⟩ := Outcome.bind_eq_ok.1 hw
    exact ih (h.step hs) hw

theorem IsBelowDirectories.dropLast (h : t.IsBelowDirectories l) :
    t.isDirectory l.dropLast = true := by
  by_cases hl : l = []
  · rw [hl]
    rfl
  · refine h _ (List.dropLast_prefix l) fun heq => ?_
    have hlength := congrArg List.length heq
    rw [List.length_dropLast] at hlength
    have := List.length_pos_of_ne_nil hl
    omega

theorem getLast?_of_locate (h : t.locate p = .ok l) (hl : t.item? l = some (.file s)) :
    p.parts.getLast? = l.getLast? := by
  rw [locate] at h
  split at h
  · cases h
  have hfile : ¬t.isDirectory l = true := by
    rw [isDirectory_iff, hl]
    exact fun heq => by cases heq
  rcases p.parts.eq_nil_or_concat with hnil | ⟨parts, part, hparts⟩
  · rw [hnil] at h
    obtain rfl := Except.ok.inj h
    exact absurd rfl hfile
  · rw [hparts, List.concat_eq_append, List.foldlM_append] at h
    obtain ⟨m, hwalk, hlast⟩ := Outcome.bind_eq_ok.1 h
    obtain ⟨last, hs, hend⟩ := Outcome.bind_eq_ok.1 hlast
    cases hend
    have hm : t.IsBelowDirectories m :=
      IsBelowDirectories.walk (fun d hd hne => absurd (List.prefix_nil.1 hd) hne) hwalk
    obtain ⟨-, rfl⟩ := step_eq_ok hs
    rw [next] at hfile ⊢
    split
    · rename_i hpart
      rw [if_pos hpart] at hfile
      exact absurd hm.dropLast hfile
    · rw [hparts, List.concat_eq_append, List.getLast?_concat, List.getLast?_concat]

theorem isFile_eq (t : FileTree) (l : Location) :
    t.isFile l = ((t.item? l).isSome && !t.isDirectory l) := by
  rw [isFile, text?, isDirectory]
  cases t.item? l with
  | none => rfl
  | some i => cases i <;> rfl

theorem find?_eq_some {i : Item} :
    t.find? p = some (l, i) ↔ t.locate p = .ok l ∧ t.item? l = some i := by
  rw [find?]
  split
  · rename_i m hm
    rw [hm, Except.ok.injEq, Option.map_eq_some_iff]
    constructor
    · rintro ⟨j, hj, heq⟩
      obtain ⟨rfl, rfl⟩ := Prod.mk.inj heq
      exact ⟨rfl, hj⟩
    · rintro ⟨rfl, hi⟩
      exact ⟨i, hi, rfl⟩
  · rename_i f hf
    rw [hf]
    exact iff_of_false (fun h => by cases h) fun h => by cases h.1

end FileTree

namespace Discovery

variable {t : FileTree} {here : Path} {paths : List String} {path : String} {l : Location}
  {ls ms : List Location} {P : Location → Bool}

def isNamedLikeHeader (l : Location) : Bool := isHeaderName (l.getLast?.getD "")

theorem isNamedLikeHeader_eq : isNamedLikeHeader = fun l =>
    (headerSuffixes.map String.toList).contains
      ((Path.suffixOf (l.getLast?.getD "")).toList.map Char.toLower) := by
  funext l
  have hlower (s : String) : s.toLower.toList = s.toList.map Char.toLower := String.toList_map
  rw [isNamedLikeHeader, isHeaderName, Bool.eq_iff_iff, List.contains_iff_mem,
    List.contains_iff_mem, ← hlower, List.mem_map_of_injective fun _ _ => String.toList_inj.1]

/-- The path names the file, or a directory that it lies below. -/
def reaches (t : FileTree) (here : Path) (path : String) (l : Location) : Bool :=
  match t.find? (here.join (.ofString path)) with
  | some (f, .file _) => l == f
  | some (d, .directory) => d.isPrefixOf l && d != l
  | none => false

def firstReach (t : FileTree) (here : Path) (paths : List String) (l : Location) : Nat :=
  paths.findIdx (reaches t here · l)

/-- The list has all that the paths reach and that is of a kind, each once. What earlier paths reach
comes first, and what one path is the first to reach is sorted. -/
structure IsListing (t : FileTree) (here : Path) (paths : List String) (P : Location → Bool)
    (ls : List Location) : Prop where
  nodup : ls.Nodup
  mem_iff : ∀ l, l ∈ ls ↔ P l = true ∧ ∃ p ∈ paths, reaches t here p l = true
  ordered : ls.Pairwise fun l m => firstReach t here paths l < firstReach t here paths m ∨
    firstReach t here paths l = firstReach t here paths m ∧ Path.partsLe l m = true

theorem IsListing.unique (h : IsListing t here paths P ls) (h' : IsListing t here paths P ms) :
    ls = ms := by
  have hperm : ls.Perm ms := (List.perm_ext_iff_of_nodup h.nodup h'.nodup).2 fun l => by
    rw [h.mem_iff, h'.mem_iff]
  refine hperm.eq_of_pairwise (fun l m _ _ hlm hml => ?_) h.ordered h'.ordered
  rcases hlm with hlm | ⟨heq, hlm⟩
  · rcases hml with hml | ⟨heq, -⟩
    · exact absurd hml (Nat.lt_asymm hlm)
    · exact absurd heq (Nat.ne_of_gt hlm)
  · rcases hml with hml | ⟨-, hml⟩
    · exact absurd heq (Nat.ne_of_gt hml)
    · exact Path.partsLe_antisymm hlm hml

theorem name_eq (hhere : ∃ d, t.find? here = some (d, .directory)) {s : String}
    (h : t.find? (here.join (.ofString path)) = some (l, .file s)) :
    (Path.ofString path).name = l.getLast?.getD "" := by
  obtain ⟨hl, hi⟩ := FileTree.find?_eq_some.1 h
  rw [← FileTree.getLast?_of_locate hl hi, Path.name]
  rw [Path.join] at h ⊢
  split
  · rfl
  · rename_i habsolute
    rw [if_neg habsolute] at h
    by_cases hparts : (Path.ofString path).parts = []
    · -- The path is that of the directory it is read from.
      rw [hparts, List.append_nil] at h
      obtain ⟨d, hd⟩ := hhere
      cases hd.symm.trans h
    · rw [List.getLast?_append_of_ne_nil _ hparts]

theorem mem_headersBelow {d : Location} : l ∈ headersBelow t d ↔
    ((t.item? l).isSome && isNamedLikeHeader l) = true ∧ (d.isPrefixOf l && d != l) = true := by
  rw [headersBelow, List.mem_mergeSort, List.mem_filter, FileTree.mem_below, Bool.and_eq_true,
    Bool.and_eq_true, List.isPrefixOf_iff_prefix, bne_iff_ne]
  exact and_right_comm

theorem mem_expand? (hhere : ∃ d, t.find? here = some (d, .directory)) :
    l ∈ (expand? t here path).getD [] ↔
      ((t.item? l).isSome && isNamedLikeHeader l) = true ∧ reaches t here path l = true := by
  unfold expand? reaches
  cases hfound : t.find? (here.join (.ofString path)) with
  | none => exact iff_of_false List.not_mem_nil fun h => Bool.false_ne_true h.2
  | some found =>
    obtain ⟨f, s | _⟩ := found
    · have hitem := (FileTree.find?_eq_some.1 hfound).2
      dsimp only
      rw [name_eq hhere hfound, ← isNamedLikeHeader, beq_iff_eq]
      split
      · rename_i hname
        rw [Option.getD_some, List.mem_singleton, Bool.and_eq_true]
        constructor
        · rintro rfl
          exact ⟨⟨by rw [hitem]; rfl, hname⟩, rfl⟩
        · exact And.right
      · rename_i hname
        refine iff_of_false List.not_mem_nil ?_
        rintro ⟨h, rfl⟩
        exact hname (Bool.and_eq_true_iff.1 h).2
    · exact mem_headersBelow

theorem pairwise_expand? (t : FileTree) (here : Path) (path : String) :
    ((expand? t here path).getD []).Pairwise (Path.partsLe · ·) := by
  unfold expand?
  split
  · exact List.pairwise_mergeSort Path.partsLe_trans
      (fun a b => (Bool.or_eq_true _ _).mpr (Path.partsLe_total a b)) _
  · split
    · exact List.pairwise_singleton _ _
    · exact .nil
  · exact .nil

theorem locations_isListing (hhere : ∃ d, t.find? here = some (d, .directory))
    (paths : List String) :
    IsListing t here paths (fun l => (t.item? l).isSome && isNamedLikeHeader l)
      (locations t here paths) := by
  have hmem (l : Location) : l ∈ locations t here paths ↔
      ((t.item? l).isSome && isNamedLikeHeader l) = true ∧
        ∃ p ∈ paths, reaches t here p l = true := by
    rw [locations, List.mem_eraseDups, List.mem_flatMap]
    simp only [mem_expand? hhere]
    exact ⟨fun ⟨p, hp, hl, hr⟩ => ⟨hl, p, hp, hr⟩, fun ⟨hl, p, hp, hr⟩ => ⟨p, hp, hl, hr⟩⟩
  refine ⟨Table.nodup_eraseDups _, hmem, ?_⟩
  have hordered := pairwise_eraseDups_flatMap (pairwise_expand? t here) paths fun _ => true
  rw [List.filter_eq_self.2 fun _ _ => rfl] at hordered
  have hfirst {l : Location} (hl : l ∈ locations t here paths) :
      paths.findIdx (fun p => l ∈ (expand? t here p).getD []) = firstReach t here paths l := by
    refine congrArg (paths.findIdx ·) (funext fun p => ?_)
    rw [Bool.eq_iff_iff, decide_eq_true_iff, mem_expand? hhere]
    exact and_iff_right ((hmem l).1 hl).1
  refine hordered.imp_of_mem fun hl hm h => ?_
  rwa [hfirst hl, hfirst hm] at h

theorem isUnanswerable_of_locate (h : t.locate (here.join (.ofString path)) = .ok l) :
    isUnanswerable t here path = false := by
  unfold isUnanswerable
  rw [h]

theorem headers_eq_ok_iff {found : List Path} : (headers t here paths).outcome = .ok found ↔
    (∀ p ∈ paths, isUnanswerable t here p = false) ∧
      (locations t here paths).map (Path.mk 1) = found := by
  have hany : paths.any (isUnanswerable t here) = false ↔
      ∀ p ∈ paths, isUnanswerable t here p = false := by
    simp only [List.any_eq_false, Bool.not_eq_true]
  rw [headers, Run.outcome_bind, Run.outcome_tellAll, ← hany]
  cases paths.any (isUnanswerable t here) with
  | true => exact iff_of_false (fun h => by cases h) fun h => by cases h.1
  | false => exact ⟨fun h => ⟨rfl, Except.ok.inj h⟩, fun h => congrArg Except.ok h.2⟩

/-- What is found is all that is named like a header and reached, in order. These are the files of
this kind exactly if no directory is named like a header and reached. -/
theorem headers_isListing_iff (hhere : ∃ d, t.find? here = some (d, .directory)) :
    (∀ found, (headers t here paths).outcome = .ok found → ∃ ls, found = ls.map (Path.mk 1) ∧
      IsListing t here paths (fun l => (t.item? l).isSome && isNamedLikeHeader l) ls) ∧
      ((∃ ls, (headers t here paths).outcome = .ok (ls.map (Path.mk 1)) ∧
          IsListing t here paths (fun l => t.isFile l && isNamedLikeHeader l) ls) ↔
        (∀ p ∈ paths, isUnanswerable t here p = false) ∧
          ∀ l, t.isDirectory l = true → isNamedLikeHeader l = true →
            ∀ p ∈ paths, reaches t here p l = false) := by
  have hlisting := locations_isListing hhere paths
  constructor
  · intro found h
    exact ⟨_, (headers_eq_ok_iff.1 h).2.symm, hlisting⟩
  constructor
  · rintro ⟨ls, hls, hfiles⟩
    obtain ⟨hanswered, hls⟩ := headers_eq_ok_iff.1 hls
    obtain rfl : locations t here paths = ls :=
      List.map_injective_iff.2 (fun _ _ => congrArg Path.parts) hls
    refine ⟨hanswered, fun l hd hn p hp => Bool.eq_false_iff.2 fun hr => ?_⟩
    have hitem : (t.item? l).isSome = true := by
      rw [FileTree.isDirectory_iff.1 hd]
      rfl
    have hl := (hlisting.mem_iff l).2 ⟨by rw [hitem, hn]; rfl, p, hp, hr⟩
    have hfile := ((hfiles.mem_iff l).1 hl).1
    rw [FileTree.isFile_eq, hd, Bool.not_true, Bool.and_false, Bool.false_and] at hfile
    cases hfile
  · rintro ⟨hanswered, hdirectories⟩
    refine ⟨_, headers_eq_ok_iff.2 ⟨hanswered, rfl⟩, hlisting.nodup, fun l => ?_, hlisting.ordered⟩
    rw [hlisting.mem_iff]
    refine and_congr_left fun ⟨p, hp, hr⟩ => ?_
    rw [FileTree.isFile_eq]
    cases hd : t.isDirectory l with
    | false => rw [Bool.not_false, Bool.and_true]
    | true =>
      have hn : isNamedLikeHeader l = false := Bool.eq_false_iff.2 fun hn => by
        rw [hdirectories l hd hn p hp] at hr
        cases hr
      rw [hn, Bool.and_false, Bool.and_false]

/-- A directory with two headers, one of them in a directory of the given name. -/
def wheelTree (parts : String) : FileTree := ⟨[
  (["include"], .directory),
  (["include", "Node.h"], .file ""),
  (["include", parts], .directory),
  (["include", parts, "Wheel.HPP"], .file "")]⟩

theorem locate_include (parts : String) :
    (wheelTree parts).locate (Path.join ⟨1, []⟩ (.ofString "include")) = .ok ["include"] := by
  have hpath : Path.join ⟨1, []⟩ (.ofString "include") = ⟨1, ["include"]⟩ := by decide +kernel
  have hnull : Path.hasNullCharacter ⟨1, ["include"]⟩ = false := by simp [Path.hasNullCharacter]
  rw [hpath, FileTree.locate, hnull]
  rfl

theorem headers_include {parts : String} {ls : List Location}
    (h : ((wheelTree parts).below ["include"]).filter isNamedLikeHeader = ls)
    (hsorted : ls.Pairwise (Path.partsLe · ·)) (hn : ls.eraseDups = ls) :
    (headers (wheelTree parts) ⟨1, []⟩ ["include"]).outcome = .ok (ls.map (Path.mk 1)) := by
  have hlocate := locate_include parts
  refine headers_eq_ok_iff.2 ⟨List.forall_mem_singleton.2 ?_, ?_⟩
  · exact isUnanswerable_of_locate hlocate
  · have hbelow : headersBelow (wheelTree parts) ["include"] = ls := by
      rw [← List.mergeSort_of_pairwise hsorted, ← h]
      rfl
    have hexpand : expand? (wheelTree parts) ⟨1, []⟩ "include" = some ls := by
      unfold expand? FileTree.find?
      rw [hlocate, ← hbelow]
      rfl
    rw [locations, List.flatMap_singleton, hexpand, Option.getD_some, hn]

/-- A directory that is named like a header is taken for one. -/
theorem headers_lists_directory :
    (headers (wheelTree "Parts.h") ⟨1, []⟩ ["include"]).outcome = .ok
      [⟨1, ["include", "Node.h"]⟩, ⟨1, ["include", "Parts.h"]⟩,
        ⟨1, ["include", "Parts.h", "Wheel.HPP"]⟩] ∧
    (wheelTree "Parts.h").isFile ["include", "Parts.h"] = false ∧
    ¬∃ ls, (headers (wheelTree "Parts.h") ⟨1, []⟩ ["include"]).outcome =
        .ok (ls.map (Path.mk 1)) ∧
      IsListing (wheelTree "Parts.h") ⟨1, []⟩ ["include"]
        (fun l => (wheelTree "Parts.h").isFile l && isNamedLikeHeader l) ls := by
  have hnamed : ((wheelTree "Parts.h").below ["include"]).filter isNamedLikeHeader =
      [["include", "Node.h"], ["include", "Parts.h"], ["include", "Parts.h", "Wheel.HPP"]] := by
    rw [isNamedLikeHeader_eq]
    decide +kernel
  have hrun := headers_include hnamed (by decide +kernel) (by decide)
  have hdirectory : (wheelTree "Parts.h").isFile ["include", "Parts.h"] = false := by decide
  refine ⟨hrun, hdirectory, ?_⟩
  rintro ⟨ls, hls, hlisting⟩
  have hpaths := Except.ok.inj (hrun.symm.trans hls)
  obtain rfl := List.map_injective_iff.2 (fun _ _ => congrArg Path.parts) hpaths
  have hfile := ((hlisting.mem_iff ["include", "Parts.h"]).1 (by decide)).1
  rw [hdirectory] at hfile
  cases hfile

theorem headers_isListing_wheel :
    (headers (wheelTree "Parts") ⟨1, []⟩ ["include"]).outcome =
      .ok [⟨1, ["include", "Node.h"]⟩, ⟨1, ["include", "Parts", "Wheel.HPP"]⟩] ∧
    ∃ ls, (headers (wheelTree "Parts") ⟨1, []⟩ ["include"]).outcome = .ok (ls.map (Path.mk 1)) ∧
      IsListing (wheelTree "Parts") ⟨1, []⟩ ["include"]
        (fun l => (wheelTree "Parts").isFile l && isNamedLikeHeader l) ls := by
  have hnamed : ((wheelTree "Parts").below ["include"]).filter isNamedLikeHeader =
      [["include", "Node.h"], ["include", "Parts", "Wheel.HPP"]] := by
    rw [isNamedLikeHeader_eq]
    decide +kernel
  have hhere : ∃ d, (wheelTree "Parts").find? ⟨1, []⟩ = some (d, .directory) := ⟨[], rfl⟩
  refine ⟨headers_include hnamed (by decide +kernel) (by decide),
    (headers_isListing_iff hhere).2.2 ⟨List.forall_mem_singleton.2 ?_, fun l hd hn => ?_⟩⟩
  · exact isUnanswerable_of_locate (locate_include "Parts")
  · exfalso
    have hne : l ≠ [] := by
      rintro rfl
      rw [isNamedLikeHeader_eq] at hn
      exact absurd hn (by decide +kernel)
    have hl := (FileTree.isSome_item?_iff hne).1 (by rw [FileTree.isDirectory_iff.1 hd]; rfl)
    have hnone : ∀ l ∈ (wheelTree "Parts").entries.map (·.1),
        (wheelTree "Parts").isDirectory l = true → isNamedLikeHeader l = false := by
      rw [isNamedLikeHeader_eq]
      decide +kernel
    rw [hnone l hl hd] at hn
    cases hn

end Discovery

end ScriptGlue

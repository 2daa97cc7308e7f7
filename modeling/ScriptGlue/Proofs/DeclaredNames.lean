import Mathlib.Data.List.Nodup
import ScriptGlue.Proofs.Forwarding

namespace ScriptGlue

namespace Passing

variable {passings : List Passing}

theorem filter_isConverted {ps : List Parameter} {rs : List Conversion}
    (hp : passings.map (·.parameter) = ps)
    (hr : passings.map (·.isConverted) = rs.map (·.needsWrapper)) :
    (passings.filter (·.isConverted)).map (·.parameter) =
      ((ps.zip rs).filter (·.2.needsWrapper)).map Prod.fst := by
  induction passings generalizing ps rs with
  | nil =>
    subst hp
    rfl
  | cons q passings ih =>
    subst hp
    cases rs with
    | nil => cases hr
    | cons r rs =>
      obtain ⟨hq, hrest⟩ := List.cons.inj hr
      simp only [List.map_cons, List.zip_cons_cons, List.filter_cons, hq]
      split
      · rw [List.map_cons, List.map_cons, ih rfl hrest]
      · exact ih rfl hrest

end Passing

namespace Wrapper

def convertedParameters (w : Wrapper) : List Parameter :=
  ((w.function.parameters.zip w.parameters).filter (·.2.needsWrapper)).map Prod.fst

/-- The names that a wrapper adds: of the object, of the script arrays and of the value. -/
def addedNames (c : Conventions) (w : Wrapper) : List String :=
  ((objectVariable? w.function).map (·.name)).toList ++
    (w.convertedParameters.map (·.name.shown ++ c.convertedSuffix) ++
      (w.valueVariable?.map (·.name)).toList)

variable {c : Catalog} {f : FunctionDecl} {isTemplate : Bool} {w : Wrapper}
  {passings : List Passing} {value? : Option ReturnValue}

theorem IsWrittenBy.sublist_convertedParameters {c : Conventions}
    (h : w.IsWrittenBy c passings value?) :
    w.convertedParameters.Sublist w.function.parameters := by
  rw [convertedParameters, ← Passing.filter_isConverted h.parameters h.converted, ← h.parameters]
  exact List.filter_sublist.map _

theorem IsWrittenBy.declared_perm {c : Conventions} (h : w.IsWrittenBy c passings value?) :
    (w.code c passings value?).declared.Perm
      (w.addedNames c ++ w.function.parameters.map (·.name.shown)) := by
  have hperm := Passing.names_perm c passings
  have hconverted : (passings.filter (·.isConverted)).map
        (·.parameter.name.shown ++ c.convertedSuffix) =
      w.convertedParameters.map (·.name.shown ++ c.convertedSuffix) := by
    rw [convertedParameters, ← Passing.filter_isConverted h.parameters h.converted, List.map_map]
    rfl
  have hnames : passings.map (·.parameter.name.shown) =
      w.function.parameters.map (·.name.shown) := by
    rw [← h.parameters, List.map_map]
    rfl
  rw [hconverted, hnames] at hperm
  unfold WrapperCode.declared code addedNames
  simp only [List.map_append, List.map_map, List.flatMap_append, List.flatMap_cons,
    WrapperStatement.flatMap_declares_giveBack, WrapperStatement.declares_forward,
    Option.toList_map, List.append_nil, List.append_assoc, Function.comp_def]
  refine List.Perm.append_left _ ?_
  rw [← List.append_assoc]
  refine (hperm.append_right _).trans ?_
  rw [List.append_assoc]
  exact List.perm_append_comm.append_left _

theorem append_conv_ne {s : String} (hs : s.toList.getLast? ≠ some 'v') (name : String) :
    name ++ "_conv" ≠ s := by
  rintro rfl
  simp at hs

theorem IsWrittenBy.nodup_convertedNames {c : Conventions} (h : w.IsWrittenBy c passings value?)
    (hn : (w.function.parameters.map (·.name.shown)).Nodup) (suffix : String) :
    (w.convertedParameters.map (·.name.shown ++ suffix)).Nodup := by
  have hnames := hn.sublist (h.sublist_convertedParameters.map (·.name.shown))
  have hsuffix := hnames.map fun _ _ he => (String.append_left_inj suffix).1 he
  rw [List.map_map] at hsuffix
  exact hsuffix

theorem objectVariable?_name : ∀ n ∈ ((objectVariable? f).map (·.name)).toList, n = "ptr" := by
  rw [objectVariable?]
  split
  · exact fun n hn => List.mem_singleton.1 hn
  · exact fun n hn => by cases hn

theorem valueVariable?_name : ∀ n ∈ (w.valueVariable?.map (·.name)).toList, n = "result" := by
  rw [valueVariable?]
  split
  · exact fun n hn => by cases hn
  · exact fun n hn => List.mem_singleton.1 hn

/-- With the usual suffix no two added names are the same: each kind of name has a last letter of
its own. -/
theorem IsWrittenBy.nodup_addedNames {c : Conventions} (h : w.IsWrittenBy c passings value?)
    (hs : c.convertedSuffix = "_conv")
    (hn : (w.function.parameters.map (·.name.shown)).Nodup) : (w.addedNames c).Nodup := by
  have hconverted := h.nodup_convertedNames hn c.convertedSuffix
  have hconv : ∀ n ∈ w.convertedParameters.map (·.name.shown ++ c.convertedSuffix),
      n ≠ "ptr" ∧ n ≠ "result" := by
    intro n hm
    obtain ⟨p, -, rfl⟩ := List.mem_map.1 hm
    rw [hs]
    exact ⟨append_conv_ne (by decide) _, append_conv_ne (by decide) _⟩
  rw [addedNames, List.nodup_append, List.nodup_append]
  refine ⟨Option.toList_nodup _, ⟨hconverted, Option.toList_nodup _, ?_⟩, ?_⟩
  · rintro n hm m hm' rfl
    exact (hconv n hm).2 (valueVariable?_name n hm')
  · rintro n hm m hm' rfl
    have hptr : n = "ptr" := objectVariable?_name n hm
    rcases List.mem_append.1 hm' with hm' | hm'
    · exact (hconv n hm').1 hptr
    · exact absurd (hptr.symm.trans (valueVariable?_name n hm')) (by decide)

/-- Where a function has no two parameters of one name, the code of its wrapper declares no name
twice exactly if no two of the added names are the same, and none of them is the name of a
parameter. -/
theorem declared_nodup_iff (hb : build c f isTemplate = .ok w)
    (hn : (f.parameters.map (·.name.shown)).Nodup) :
    ∃ passings value?, w.IsWrittenBy c.conventions passings value? ∧
      ((w.code c.conventions passings value?).declared.Nodup ↔
        (w.addedNames c.conventions).Nodup ∧
          ∀ n ∈ w.addedNames c.conventions, n ∉ f.parameters.map (·.name.shown)) ∧
      (c.conventions.convertedSuffix = "_conv" → (w.addedNames c.conventions).Nodup) := by
  obtain ⟨passings, value?, hw⟩ := exists_isWrittenBy hb
  rw [← function_of_build hb] at hn ⊢
  refine ⟨passings, value?, hw, ?_, fun hs => hw.nodup_addedNames hs hn⟩
  rw [hw.declared_perm.nodup_iff, List.nodup_append]
  constructor
  · rintro ⟨hadded, -, hdisjoint⟩
    exact ⟨hadded, fun n hm hm' => hdisjoint n hm n hm' rfl⟩
  · rintro ⟨hadded, hdisjoint⟩
    refine ⟨hadded, hn, ?_⟩
    rintro n hm m hm' rfl
    exact hdisjoint n hm hm'

/-- A method whose parameters have none of the added names. -/
theorem declared_nodup_iff_find :
    let c : Catalog := .build {} [{ name := "Node", isRefCounted := true }] [] []
    let f : FunctionDecl := {
      name := "Find"
      returnType := .plain "int"
      parameters := [
        { name := "tags"
          type := { name := "Vector<String>", isConst := true, isReference := true } },
        { name := "depth", type := .plain "int" }]
      kind := .method
      owner := "Node" }
    ∃ w passings value?, build c f = .ok w ∧ w.IsWrittenBy .standard passings value? ∧
      (w.code .standard passings value?).declared.Nodup := by
  intro c f
  obtain ⟨w, hb⟩ : ∃ w, build c f = .ok w := Outcome.isOk_iff.1 (by decide)
  obtain ⟨passings, value?, hw, hiff, hadded⟩ := declared_nodup_iff hb (by decide)
  have hnames : w.addedNames .standard = ["ptr", "tags_conv", "result"] := by
    have h : (build c f).toOption.map (·.addedNames .standard) =
        some ["ptr", "tags_conv", "result"] := by decide
    rw [hb] at h
    exact Option.some.inj h
  refine ⟨w, passings, value?, hb, hw, hiff.2 ⟨hadded rfl, ?_⟩⟩
  show ∀ n ∈ w.addedNames .standard, n ∉ f.parameters.map (·.name.shown)
  rw [hnames]
  decide

/-- Parameters that have the names of the object, of the script array of another parameter and of
the value are declared a second time by the code. -/
theorem declares_twice :
    let c : Catalog := .build {} [{ name := "Node", isRefCounted := true }] [] []
    let f : FunctionDecl := {
      name := "Find"
      returnType := .plain "int"
      parameters := [
        { name := "tags"
          type := { name := "Vector<String>", isConst := true, isReference := true } },
        { name := "tags_conv", type := .plain "int" },
        { name := "ptr", type := .plain "int" },
        { name := "result", type := .plain "int" }]
      kind := .method
      owner := "Node" }
    (f.parameters.map (·.name.shown)).Nodup ∧
      (∀ p ∈ f.parameters, Text.isIdentifier p.name.shown.toList) ∧
      ∃ w passings value?, build c f = .ok w ∧ w.isNeeded ∧
        w.IsWrittenBy .standard passings value? ∧
        (∀ n ∈ ["ptr", "tags_conv", "result"],
          (w.code .standard passings value?).declared.count n = 2) ∧
        ¬(w.code .standard passings value?).declared.Nodup := by
  intro c f
  refine ⟨by decide, by decide, ?_⟩
  obtain ⟨w, hb⟩ : ∃ w, build c f = .ok w := Outcome.isOk_iff.1 (by decide)
  obtain ⟨passings, value?, hw⟩ := exists_isWrittenBy hb
  change w.IsWrittenBy .standard passings value? at hw
  obtain ⟨hneeded, hnames⟩ :
      w.isNeeded ∧ w.addedNames .standard = ["ptr", "tags_conv", "result"] := by
    have h : (build c f).toOption.map (fun w => (w.isNeeded, w.addedNames .standard)) =
        some (true, ["ptr", "tags_conv", "result"]) := by decide
    rw [hb] at h
    exact Prod.mk.inj (Option.some.inj h)
  have hcount : ∀ n ∈ ["ptr", "tags_conv", "result"],
      (w.code .standard passings value?).declared.count n = 2 := by
    intro n
    rw [hw.declared_perm.count_eq, hnames, function_of_build hb]
    revert n
    decide
  refine ⟨w, passings, value?, hb, hneeded, hw, hcount, fun hnodup => ?_⟩
  have hptr := List.nodup_iff_count_le_one.1 hnodup "ptr"
  rw [hcount "ptr" (by decide)] at hptr
  exact absurd hptr (by decide)

end Wrapper

end ScriptGlue

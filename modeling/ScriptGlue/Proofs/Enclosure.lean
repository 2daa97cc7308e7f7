import ScriptGlue.Proofs.Gathered

namespace ScriptGlue

namespace Cursor

mutual

theorem tail_mem_pathsUnder {base n : NodePath} :
    ∀ c : Cursor, n ∈ c.pathsUnder base → n.tail = base ∨ n.tail ∈ c.pathsUnder base
  | .node i cs, hn => by
    rw [pathsUnder] at hn ⊢
    rcases List.mem_cons.1 hn with rfl | hn
    · exact .inl rfl
    · rcases tail_mem_pathsOfAll cs hn with hbase | hn
      · rw [hbase]
        exact .inr List.mem_cons_self
      · exact .inr (List.mem_cons_of_mem _ hn)

theorem tail_mem_pathsOfAll {base n : NodePath} :
    ∀ cs : List Cursor, n ∈ pathsOfAll base cs → n.tail = base ∨ n.tail ∈ pathsOfAll base cs
  | [], hn => absurd hn List.not_mem_nil
  | c :: cs, hn => by
    rw [pathsOfAll, List.mem_append] at hn ⊢
    rcases hn with hn | hn
    · exact (tail_mem_pathsUnder c hn).imp_right .inl
    · exact (tail_mem_pathsOfAll cs hn).imp_right .inr

end

theorem above_mem_paths {u c : Cursor} {above : NodePath} (hn : c :: above ∈ u.paths)
    (ha : above ≠ []) : above ∈ u.paths :=
  (tail_mem_pathsUnder u hn).resolve_left ha

end Cursor

/-- The declaration gives scripts nothing to use: it is no function or field, and if it is a class,
it is internal. -/
def Sighting.IsHidden : Sighting → Prop
  | classDecl _ d => d.isInternal = true
  | functionDecl _ _ => False
  | fieldDecl _ _ => False
  | _ => True

namespace CollectionRules

/-- At some depth above the node there is a class that is reached and internal. -/
def IsEnclosed (r : CollectionRules) : NodePath → Prop
  | [] => False
  | _ :: above => r.Reaches above ∧ isInternalAt above = true ∨ IsEnclosed r above

/-- Inside internal classes, at any depth, all that is shown is hidden. -/
def HidesEnclosed (r : CollectionRules) (u : Cursor) : Prop :=
  ∀ n ∈ u.paths, r.IsEnclosed n → ∀ s ∈ r.shownAt n, s.IsHidden

/-- If the node is a class that is reached directly inside an internal class, it is itself marked as
internal or not public. -/
def IsMarkedInside (r : CollectionRules) : NodePath → Prop
  | [] => True
  | c :: above => r.Takes c.info → r.Reaches above → isInternalAt above = true →
      isInternal c.info true = true

def MarksEnclosed (r : CollectionRules) (u : Cursor) : Prop := ∀ n ∈ u.paths, r.IsMarkedInside n

instance (r : CollectionRules) : ∀ n, Decidable (r.IsMarkedInside n)
  | [] => .isTrue trivial
  | c :: above => inferInstanceAs (Decidable (r.Takes c.info → r.Reaches above →
      isInternalAt above = true → isInternal c.info true = true))

instance (r : CollectionRules) (u : Cursor) : Decidable (r.MarksEnclosed u) :=
  inferInstanceAs (Decidable (∀ n ∈ u.paths, _))

variable {r : CollectionRules} {u c : Cursor} {n above : NodePath} {s : Sighting}

theorem IsOpen.not_isEnclosed (h : r.IsOpen above) : ¬r.IsEnclosed (c :: above) := by
  induction above generalizing c with
  | nil =>
    rintro (⟨hr, -⟩ | he)
    · exact hr
    · exact he
  | cons a above ih =>
    rintro (⟨hr, -⟩ | he)
    · exact h.not_reaches hr
    · exact ih (isOpen_cons.1 h).2 he

theorem isInternalAt_of_reaches (h : r.Reaches above) :
    isInternalAt (c :: above) = isInternal c.info true := by
  cases above with
  | nil => exact absurd h id
  | cons a above =>
    have hclass : a.info.kind.isClass = true := h.1.1
    rw [isInternalAt, List.head?_cons, Option.any_some, hclass]

theorem MarksEnclosed.isInternalAt (h : r.MarksEnclosed u) (hn : n ∈ u.paths) (hr : r.Reaches n)
    (he : r.IsEnclosed n) : isInternalAt n = true := by
  induction n with
  | nil => exact absurd he id
  | cons c above ih =>
    obtain ⟨htakes, ⟨-, ho⟩ | hreaches⟩ := hr
    · exact absurd he ho.not_isEnclosed
    have habove : above ≠ [] := by
      rintro rfl
      exact hreaches
    have hinternal : CollectionRules.isInternalAt above = true := by
      rcases he with ⟨-, hi⟩ | he
      · exact hi
      · exact ih (Cursor.above_mem_paths hn habove) hreaches he
    rw [isInternalAt_of_reaches hreaches]
    exact h _ hn htakes hreaches hinternal

/-- A node that stands in a class and is no public member of it shows no function and no field. -/
theorem isHidden_of_not_isPublicMember (hout : ¬r.IsOutermost c.info above)
    (hmember : ¬r.IsPublicMember c.info above)
    (hclass : ∀ key d, s = .classDecl key d → d.isInternal = true)
    (hs : s ∈ r.shownAt (c :: above)) : s.IsHidden := by
  obtain ⟨i, cs⟩ := c
  have hout : ¬r.IsOutermost i above := hout
  have hmember : ¬r.IsPublicMember i above := hmember
  simp only [shownAt, hout, hmember, if_false, false_or, ite_self] at hs
  split_ifs at hs
  · rw [List.mem_singleton.1 hs]
    trivial
  · have hs := List.mem_singleton.1 hs
    rw [hs]
    exact hclass _ _ hs
  · exact absurd hs List.not_mem_nil
  · rw [enumSightings] at hs
    split at hs
    · exact absurd hs List.not_mem_nil
    · rw [List.mem_singleton.1 hs]
      trivial
  all_goals exact absurd hs List.not_mem_nil

theorem MarksEnclosed.isHidden (h : r.MarksEnclosed u) (hn : n ∈ u.paths) (he : r.IsEnclosed n)
    (hs : s ∈ r.shownAt n) : s.IsHidden := by
  cases n with
  | nil => exact absurd he id
  | cons c above =>
    have hout : ¬r.IsOutermost c.info above := fun ho => ho.2.not_isEnclosed he
    have hmember : ¬r.IsPublicMember c.info above := by
      rintro ⟨hreaches, hopen, -⟩
      have habove : above ≠ [] := by
        rintro rfl
        exact hreaches
      rcases he with ⟨-, hi⟩ | he
      · rw [hopen] at hi
        cases hi
      · rw [h.isInternalAt (Cursor.above_mem_paths hn habove) hreaches he] at hopen
        cases hopen
    refine isHidden_of_not_isPublicMember hout hmember (fun key d hd => ?_) hs
    rw [hd] at hs
    obtain ⟨i, cs, below, -, hr, hshown⟩ := classDecl_of_mem_shownAt hs
    cases hshown
    exact h.isInternalAt hn hr he

theorem classSighting_mem_shownAt (hr : r.Reaches (c :: above)) :
    r.classSighting c.info c.children (isInternalAt (c :: above)) ∈ r.shownAt (c :: above) := by
  obtain ⟨i, cs⟩ := c
  obtain ⟨⟨hclass, hd, hn, he⟩, hplace⟩ := hr
  have hclass : i.kind.isClass = true := hclass
  have hdn : i.isDefinition = true ∧ i.spelling ≠ "" := ⟨hd, hn⟩
  have he : r.isExcluded i.spelling = false := he
  rw [shownAt_of_isOutermost_or_reaches hclass hplace, if_pos hdn, he]
  exact List.mem_singleton_self _

/-- All that is shown inside internal classes is hidden exactly if each class that is reached
directly inside one is itself marked or not public. -/
theorem hidesEnclosed_iff : r.HidesEnclosed u ↔ r.MarksEnclosed u := by
  constructor
  · intro h n hn
    cases n with
    | nil => trivial
    | cons c above =>
      intro htakes hreaches hinternal
      have hr : r.Reaches (c :: above) := ⟨htakes, .inr hreaches⟩
      have hhidden := h _ hn (.inl ⟨hreaches, hinternal⟩) _ (classSighting_mem_shownAt hr)
      rw [isInternalAt_of_reaches hreaches] at hhidden
      exact hhidden
  · intro h n hn he s hs
    exact h.isHidden hn he hs

end CollectionRules

namespace Collection

variable {p : HeaderParser} {r : CollectionRules} {conventions : Conventions}
  {arguments : List String} {headers : List Path} {emitDiagnostics : Bool} {i : Inputs}

/-- What stands inside internal classes is hidden exactly if no class directly inside one is public
and without a mark of its own. Then nothing that a run keeps was shown inside an internal class,
but for classes that are internal as well and declarations that belong to no object. -/
theorem collect_hidesEnclosed_iff
    (h : (collect p r conventions arguments headers emitDiagnostics).outcome = .ok i) :
    let units := headers.map fun h => (p.parse h.text).cursor
    ((∀ u ∈ units, r.HidesEnclosed u) ↔ ∀ u ∈ units, r.MarksEnclosed u) ∧
      ∃ c, (units.foldlM (visit r) {}).outcome = .ok c ∧ inputs conventions c = i ∧
        ((∀ u ∈ units, r.MarksEnclosed u) → c.Holds fun s => ∃ u ∈ units, ∃ n ∈ u.paths,
          s ∈ r.shownAt n ∧ (r.IsEnclosed n → s.IsHidden)) := by
  intro units
  refine ⟨forall₂_congr fun u _ => CollectionRules.hidesEnclosed_iff, ?_⟩
  obtain ⟨c, hc, hi⟩ := collect_eq_ok h
  refine ⟨c, hc, hi, fun hmarks => (holds_shownAt hc).imp fun s => ?_⟩
  rintro ⟨u, hu, n, hn, hs⟩
  exact ⟨u, hu, n, hn, hs, fun he => (hmarks u hu).isHidden hn he hs⟩

def poolNode (kind : CursorKind) (spelling : String) (isPublic : Bool) (members : List Cursor) :
    Cursor :=
  .node { kind, spelling, file? := some "/Node.h", usr := "c:@" ++ spelling, isPublic } members

/-- A class with a private class in it, and in that another class with a public method. -/
def pool (isPublic : Bool) : Cursor := .node { kind := .translationUnit } [
  poolNode .classDecl "Node" true [
    poolNode .classDecl "Pool" false [
      poolNode .structDecl "Slot" isPublic [
        poolNode .method "Use" true []]]]]

def poolParser (isPublic : Bool) : HeaderParser where
  parse _ := { cursor := pool isPublic }

/-- A public class in a private one is not internal, and its method is collected. -/
theorem collect_binds_enclosed : ¬({} : CollectionRules).HidesEnclosed (pool true) ∧ ∃ c,
    ([pool true].foldlM (visit {}) {}).outcome = .ok c ∧
      (collect (poolParser true) {} {} [] [⟨1, ["Node.h"]⟩]).outcome = .ok (inputs {} c) ∧
      (c.classes.values.map fun d => (d.name.shown, d.isInternal)) =
        [("Node", false), ("Pool", true), ("Slot", false)] ∧
      c.functions.values.map (·.qualifiedName) = ["Slot::Use"] := by
  have hmarks : ¬({} : CollectionRules).MarksEnclosed (pool true) := by decide
  have hvisit : ([pool true].foldlM (visit {}) {}).outcome = .ok _ := rfl
  refine ⟨mt CollectionRules.hidesEnclosed_iff.1 hmarks, _, hvisit,
    outcome_collect rfl rfl hvisit, ?_, ?_⟩
  · decide
  · decide

theorem collect_hidesEnclosed_pool : ∃ i,
    (collect (poolParser false) {} {} [] [⟨1, ["Node.h"]⟩]).outcome = .ok i ∧
      ({} : CollectionRules).HidesEnclosed (pool false) ∧
      i.functions.map (·.qualifiedName) = [] ∧
      ∃ c, ([pool false].foldlM (visit {}) {}).outcome = .ok c ∧ inputs {} c = i ∧
        c.Holds fun s => ∃ u ∈ [pool false], ∃ n ∈ u.paths,
          s ∈ CollectionRules.shownAt {} n ∧ (CollectionRules.IsEnclosed {} n → s.IsHidden) := by
  have hvisit : ([pool false].foldlM (visit {}) {}).outcome = .ok _ := rfl
  have hrun : (collect (poolParser false) {} {} [] [⟨1, ["Node.h"]⟩]).outcome = .ok _ :=
    outcome_collect rfl rfl hvisit
  have hmarks : ∀ u ∈ [pool false], ({} : CollectionRules).MarksEnclosed u := by decide
  obtain ⟨hhides, c, hc, hi, hholds⟩ := collect_hidesEnclosed_iff hrun
  exact ⟨_, hrun, hhides.2 hmarks _ (List.mem_singleton_self _), rfl, c, hc, hi, hholds hmarks⟩

end Collection

end ScriptGlue

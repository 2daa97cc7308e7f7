import Mathlib.Data.List.Forall2
import Mathlib.Data.List.Nodup
import Mathlib.Data.List.Perm.Basic
import Mathlib.Data.List.Perm.Subperm
import Mathlib.Logic.Relation
import ScriptGlue.Header.Collection
import ScriptGlue.Proofs.Table

namespace ScriptGlue.Lineage

/-- Some class of the name has the other name among its bases. -/
def IsBase (ds : List ClassDecl) (name base : String) : Prop :=
  ∃ d ∈ ds, d.name.shown = name ∧ base ∈ d.bases.map (·.shown)

def LeadsToRoot (ds : List ClassDecl) (name : String) : Prop :=
  Relation.ReflTransGen (IsBase ds) name root

def IsAcyclic (ds : List ClassDecl) : Prop := ∀ name, ¬Relation.TransGen (IsBase ds) name name

variable {ds es : List ClassDecl} {name base : String}

theorem IsBase.mono (hs : ds ⊆ es) (h : IsBase ds name base) : IsBase es name base := by
  obtain ⟨d, hd, hn, hb⟩ := h
  exact ⟨d, hs hd, hn, hb⟩

theorem LeadsToRoot.mono (hs : ds ⊆ es) (h : LeadsToRoot ds name) : LeadsToRoot es name :=
  Relation.ReflTransGen.mono (fun _ _ hb => IsBase.mono hs hb) _ _ h

theorem IsAcyclic.mono (hs : ds ⊆ es) (h : IsAcyclic es) : IsAcyclic ds := by
  intro name hn
  exact h name (Relation.TransGen.mono (fun _ _ hb => IsBase.mono hs hb) _ _ hn)

theorem leadsToRoot_iff :
    LeadsToRoot ds name ↔ name = root ∨ ∃ base, IsBase ds name base ∧ LeadsToRoot ds base := by
  constructor
  · intro h
    rcases Relation.ReflTransGen.cases_head h with rfl | ⟨base, hb, h⟩
    · exact .inl rfl
    · exact .inr ⟨base, hb, h⟩
  · rintro (rfl | ⟨base, hb, h⟩)
    · exact .refl
    · exact .head hb h

theorem isAcyclic_of_rank (rank : String → Nat)
    (h : ∀ d ∈ ds, ∀ b ∈ d.bases, rank b.shown < rank d.name.shown) : IsAcyclic ds := by
  have hlower {a b : String} (hb : IsBase ds a b) : rank b < rank a := by
    obtain ⟨d, hd, rfl, hb⟩ := hb
    obtain ⟨base, hbase, rfl⟩ := List.mem_map.1 hb
    exact h d hd base hbase
  have hchain {a b : String} (hab : Relation.TransGen (IsBase ds) a b) : rank b < rank a := by
    induction hab with
    | single hb => exact hlower hb
    | tail _ hb ih => exact Nat.lt_trans (hlower hb) ih
  intro name hn
  exact Nat.lt_irrefl _ (hchain hn)

/-- What is asked in the course of a search: whether one class leads to the root, or whether some of
its bases do. -/
inductive Question where
  | one (name : String)
  | any (names : List String)

namespace Question

def Holds (ds : List ClassDecl) : Question → Prop
  | one name => LeadsToRoot ds name
  | any names => ∃ name ∈ names, LeadsToRoot ds name

def IsBelow (ds : List ClassDecl) (seen : List String) : Question → Prop
  | one name => ∀ s ∈ seen, Relation.TransGen (IsBase ds) s name
  | any names => ∀ s ∈ seen, ∀ name ∈ names, Relation.TransGen (IsBase ds) s name

/-- An answer may be wrong only by missing a class that leads to the root, and only where there is a
cycle. -/
structure IsRight (ds : List ClassDecl) (q : Question) (answer : Bool) : Prop where
  sound : answer = true → q.Holds ds
  complete : IsAcyclic ds → q.Holds ds → answer = true

end Question

def Indexes (classes : Table String ClassDecl) (ds : List ClassDecl) : Prop :=
  ∀ name d, classes.get? name = some d ↔ d ∈ ds ∧ d.name.shown = name

def Remembers (ds : List ClassDecl) (memory : Table String Bool) : Prop :=
  ∀ name answer, memory.get? name = some answer → (Question.one name).IsRight ds answer

/-- The search, with no bound on the length of a chain: the answer to a question while other names
are being asked about, and the memory after it. -/
inductive Answers (classes : Table String ClassDecl) :
    List String → Table String Bool → Question → Bool → Table String Bool → Prop where
  | root {seen memory} : Answers classes seen memory (.one root) true memory
  | remembered {seen memory name answer} (hr : name ≠ root)
      (hm : memory.get? name = some answer) : Answers classes seen memory (.one name) answer memory
  | unknown {seen memory name} (hr : name ≠ root) (hm : memory.get? name = none)
      (hc : classes.get? name = none) : Answers classes seen memory (.one name) false memory
  | again {seen memory name c} (hr : name ≠ root) (hm : memory.get? name = none)
      (hc : classes.get? name = some c) (hs : name ∈ seen) :
      Answers classes seen memory (.one name) false memory
  | searched {seen memory memory' name c answer} (hr : name ≠ root)
      (hm : memory.get? name = none) (hc : classes.get? name = some c) (hs : name ∉ seen)
      (h : Answers classes (name :: seen) memory (.any (c.bases.map (·.shown))) answer memory') :
      Answers classes seen memory (.one name) answer (memory'.put name answer)
  | none {seen memory} : Answers classes seen memory (.any []) false memory
  | found {seen memory memory' name names}
      (h : Answers classes seen memory (.one name) true memory') :
      Answers classes seen memory (.any (name :: names)) true memory'
  | next {seen memory memory' memory'' name names answer}
      (h : Answers classes seen memory (.one name) false memory')
      (hs : Answers classes seen memory' (.any names) answer memory'') :
      Answers classes seen memory (.any (name :: names)) answer memory''

/-- Asking about one class after another. -/
inductive Marks (classes : Table String ClassDecl) :
    Table String Bool → List ClassDecl → List ClassDecl → Prop where
  | nil {memory} : Marks classes memory [] []
  | cons {memory memory' answer c cs ms}
      (h : Answers classes [] memory (.one c.name.shown) answer memory')
      (hs : Marks classes memory' cs ms) :
      Marks classes memory (c :: cs) ({ c with isRefCounted := answer } :: ms)

section Search

variable {classes : Table String ClassDecl} {seen : List String}
  {memory memory' : Table String Bool} {q : Question} {answer : Bool} {cs ms : List ClassDecl}

theorem Remembers.put (hm : Remembers ds memory) (h : (Question.one name).IsRight ds answer) :
    Remembers ds (memory.put name answer) := by
  intro n b hb
  rw [Table.get?_put] at hb
  split at hb
  · rename_i hn
    cases hb
    rw [hn]
    exact h
  · exact hm n b hb

theorem remembers_empty : Remembers ds {} := by
  intro name answer h
  cases h

theorem Question.isRight_one (hi : Indexes classes ds) (hr : name ≠ root) {c : ClassDecl}
    (hc : classes.get? name = some c)
    (h : (Question.any (c.bases.map (·.shown))).IsRight ds answer) :
    (Question.one name).IsRight ds answer := by
  constructor
  · intro ha
    obtain ⟨base, hb, hl⟩ := h.sound ha
    obtain ⟨hd, hn⟩ := (hi name c).1 hc
    exact .head ⟨c, hd, hn, hb⟩ hl
  · intro hac hl
    obtain hl | ⟨base, ⟨d, hd, hn, hb⟩, hl⟩ := leadsToRoot_iff.1 hl
    · exact absurd hl hr
    · have hdc : d = c := Option.some.inj (((hi name d).2 ⟨hd, hn⟩).symm.trans hc)
      rw [hdc] at hb
      exact h.complete hac ⟨base, hb, hl⟩

theorem not_leadsToRoot_of_unknown (hi : Indexes classes ds) (hr : name ≠ root)
    (hc : classes.get? name = none) : ¬LeadsToRoot ds name := by
  intro hl
  obtain hl | ⟨base, ⟨d, hd, hn, -⟩, -⟩ := leadsToRoot_iff.1 hl
  · exact hr hl
  · rw [(hi name d).2 ⟨hd, hn⟩] at hc
    cases hc

/-- Every answer is right, and so is all that is remembered after it. By induction on the search:
the names that are being asked about lie above the question, so that to meet one again is to have
gone around a cycle. -/
theorem Answers.isRight (hi : Indexes classes ds) (h : Answers classes seen memory q answer memory')
    (hq : q.IsBelow ds seen) (hm : Remembers ds memory) :
    q.IsRight ds answer ∧ Remembers ds memory' := by
  induction h with
  | root => exact ⟨⟨fun _ => .refl, fun _ _ => rfl⟩, hm⟩
  | remembered hr h => exact ⟨hm _ _ h, hm⟩
  | unknown hr h hc =>
    refine ⟨⟨fun ha => absurd ha Bool.false_ne_true, fun _ hl => ?_⟩, hm⟩
    exact absurd hl (not_leadsToRoot_of_unknown hi hr hc)
  | again hr h hc hs =>
    refine ⟨⟨fun ha => absurd ha Bool.false_ne_true, fun hac _ => ?_⟩, hm⟩
    exact absurd (hq _ hs) (hac _)
  | @searched seen memory memory' name c answer hr h hc hs hb ih =>
    obtain ⟨hd, hn⟩ := (hi name c).1 hc
    have hbases : (Question.any (c.bases.map (·.shown))).IsBelow ds (name :: seen) := by
      intro s hs base hb
      have hbase : IsBase ds name base := ⟨c, hd, hn, hb⟩
      rcases List.mem_cons.1 hs with rfl | hs
      · exact .single hbase
      · exact (hq s hs).tail hbase
    obtain ⟨hright, hm'⟩ := ih hbases hm
    have hone := Question.isRight_one hi hr hc hright
    exact ⟨hone, hm'.put hone⟩
  | none =>
    refine ⟨⟨fun ha => absurd ha Bool.false_ne_true, fun _ hl => ?_⟩, hm⟩
    obtain ⟨name, hn, -⟩ := hl
    exact absurd hn List.not_mem_nil
  | found h ih =>
    obtain ⟨hright, hm'⟩ := ih (fun s hs => hq s hs _ List.mem_cons_self) hm
    exact ⟨⟨fun _ => ⟨_, List.mem_cons_self, hright.sound rfl⟩, fun _ _ => rfl⟩, hm'⟩
  | next h hs ih ihs =>
    obtain ⟨hright, hm'⟩ := ih (fun s hs => hq s hs _ List.mem_cons_self) hm
    obtain ⟨hrights, hm''⟩ :=
      ihs (fun s hs name hn => hq s hs name (List.mem_cons_of_mem _ hn)) hm'
    refine ⟨⟨fun ha => ?_, fun hac hl => ?_⟩, hm''⟩
    · obtain ⟨name, hn, hl⟩ := hrights.sound ha
      exact ⟨name, List.mem_cons_of_mem _ hn, hl⟩
    · obtain ⟨name, hn, hl⟩ := hl
      rcases List.mem_cons.1 hn with rfl | hn
      · exact absurd (hright.complete hac hl) Bool.false_ne_true
      · exact hrights.complete hac ⟨name, hn, hl⟩

/-- A class with its mark, which is the only thing about it that is new. -/
structure IsMarked (ds : List ClassDecl) (c m : ClassDecl) : Prop where
  same : m = { c with isRefCounted := m.isRefCounted }
  sound : m.isRefCounted = true → LeadsToRoot ds c.name.shown
  complete : IsAcyclic ds → LeadsToRoot ds c.name.shown → m.isRefCounted = true

theorem Marks.isMarked (hi : Indexes classes ds) (h : Marks classes memory cs ms)
    (hm : Remembers ds memory) : List.Forall₂ (IsMarked ds) cs ms := by
  induction h with
  | nil => exact .nil
  | cons h hs ih =>
    obtain ⟨hright, hm'⟩ := h.isRight hi (fun s hs => absurd hs List.not_mem_nil) hm
    exact .cons ⟨rfl, hright.sound, hright.complete⟩ (ih hm')

theorem Answers.unique {answer' : Bool} {memory'' : Table String Bool}
    (h : Answers classes seen memory q answer memory')
    (h' : Answers classes seen memory q answer' memory'') :
    answer' = answer ∧ memory'' = memory' := by
  induction h generalizing answer' memory'' with
  | root =>
    cases h' with
    | root => exact ⟨rfl, rfl⟩
    | remembered hr => exact absurd rfl hr
    | unknown hr => exact absurd rfl hr
    | again hr => exact absurd rfl hr
    | searched hr => exact absurd rfl hr
  | remembered hr hm => cases h' <;> grind
  | unknown hr hm hc => cases h' <;> grind
  | again hr hm hc hs => cases h' <;> grind
  | searched hr hm hc hs hb ih => cases h' <;> grind
  | none =>
    cases h' with
    | none => exact ⟨rfl, rfl⟩
  | found h ih =>
    cases h' with
    | found h' => exact ⟨rfl, (ih h').2⟩
    | next h' hs' => cases (ih h').1
  | next h hs ih ihs =>
    cases h' with
    | found h' => cases (ih h').1
    | next h' hs' =>
      obtain ⟨-, rfl⟩ := ih h'
      exact ihs hs'

/-- The names being asked about are known and differ from each other, so there are never more of
them than known names. -/
structure IsTrail (classes : Table String ClassDecl) (depth : Nat) (seen : List String) : Prop where
  nodup : seen.Nodup
  known : seen ⊆ classes.keys
  bound : classes.size < depth + seen.length

variable {depth : Nat}

theorem not_isTrail_zero : ¬IsTrail classes 0 seen := by
  intro h
  have hlength : seen.length ≤ classes.keys.length := (h.nodup.subperm h.known).length_le
  have hsize : classes.keys.length = classes.size := List.length_map _
  have hbound := h.bound
  omega

theorem IsTrail.cons (h : IsTrail classes (depth + 1) seen) (hs : name ∉ seen) {c : ClassDecl}
    (hc : classes.get? name = some c) : IsTrail classes depth (name :: seen) := by
  constructor
  · exact List.nodup_cons.2 ⟨hs, h.nodup⟩
  · refine List.cons_subset.2 ⟨Table.contains_iff_mem_keys.1 ?_, h.known⟩
    rw [Table.contains, hc]
    rfl
  · have hbound := h.bound
    rw [List.length_cons]
    omega

theorem isTrail_nil (h : classes.size < depth) : IsTrail classes depth [] :=
  ⟨List.nodup_nil, List.nil_subset _, h⟩

theorem answers_findAny {test : Table String Bool → String → Bool × Table String Bool}
    (h : ∀ m n, Answers classes seen m (.one n) (test m n).1 (test m n).2) (names : List String) :
    Answers classes seen memory (.any names) (findAny test memory names).1
      (findAny test memory names).2 := by
  induction names generalizing memory with
  | nil => exact .none
  | cons n ns ih =>
    have hn := h memory n
    rw [findAny]
    split
    · rename_i m ht
      rw [ht] at hn
      exact .found hn
    · rename_i m ht
      rw [ht] at hn
      exact .next hn ih

theorem answers_leadsToRoot (h : IsTrail classes depth seen) :
    Answers classes seen memory (.one name) (leadsToRoot classes depth seen memory name).1
      (leadsToRoot classes depth seen memory name).2 := by
  induction depth generalizing seen memory name with
  | zero => exact absurd h not_isTrail_zero
  | succ depth ih =>
    rw [leadsToRoot]
    split
    · rename_i hr
      rw [beq_iff_eq.1 hr]
      exact .root
    rename_i hr
    have hr : name ≠ root := mt beq_iff_eq.2 hr
    split
    · rename_i answer _ hm
      exact .remembered hr hm
    · rename_i hm hc
      exact .unknown hr hm hc
    · rename_i c hm hc
      split
      · rename_i hs
        exact .again hr hm hc (List.contains_iff_mem.1 hs)
      · rename_i hs
        have hs : name ∉ seen := mt List.contains_iff_mem.2 hs
        exact .searched hr hm hc hs (answers_findAny (fun _ _ => ih (h.cons hs hc)) _)

theorem marks_markAll (h : classes.size < depth) :
    Marks classes memory cs (markAll classes depth memory cs) := by
  induction cs generalizing memory with
  | nil => exact .nil
  | cons c cs ih => exact .cons (answers_leadsToRoot (isTrail_nil h)) ih

theorem Marks.unique {ms' : List ClassDecl} (h : Marks classes memory cs ms)
    (h' : Marks classes memory cs ms') : ms' = ms := by
  induction h generalizing ms' with
  | nil =>
    cases h'
    rfl
  | cons h hs ih =>
    obtain @⟨⟩ | ⟨h', hs'⟩ := h'
    obtain ⟨rfl, rfl⟩ := h.unique h'
    rw [ih hs']

end Search

/-- The table by which the bases of a name are found. -/
def byName (collected : List ClassDecl) : Table String ClassDecl :=
  .ofList (collected.map fun c => (c.name.shown, c))

section Resolved

variable {collected collected' : List ClassDecl} {c m : ClassDecl}

theorem mem_of_mem_byName {e : String × ClassDecl} (h : e ∈ (byName collected).entries) :
    e.2 ∈ collected ∧ e.2.name.shown = e.1 := by
  obtain ⟨c, hc, rfl⟩ := List.mem_map.1 (Table.mem_entries_of_ofList h)
  exact ⟨hc, rfl⟩

theorem values_byName_subset (collected : List ClassDecl) :
    (byName collected).values ⊆ collected := by
  intro c hc
  obtain ⟨e, he, rfl⟩ := List.mem_map.1 hc
  exact (mem_of_mem_byName he).1

theorem nodup_keys_byName (collected : List ClassDecl) : (byName collected).keys.Nodup :=
  Table.nodup_keys_ofList _

theorem indexes_byName (collected : List ClassDecl) :
    Indexes (byName collected) (byName collected).values := by
  intro name d
  rw [Table.get?_eq_some_iff (nodup_keys_byName collected), Table.values, List.mem_map]
  constructor
  · intro he
    exact ⟨⟨(name, d), he, rfl⟩, (mem_of_mem_byName he).2⟩
  · rintro ⟨⟨⟨n, d⟩, he, rfl⟩, rfl⟩
    have hn : d.name.shown = n := (mem_of_mem_byName he).2
    rwa [hn]

theorem values_byName (hn : (collected.map (·.name.shown)).Nodup) :
    (byName collected).values = collected := by
  have hkeys : (Table.mk (collected.map fun c => (c.name.shown, c))).keys.Nodup := by
    rwa [Table.keys, List.map_map]
  rw [byName, Table.ofList_entries hkeys, Table.values, List.map_map]
  exact List.map_id collected

theorem size_byName_lt (collected : List ClassDecl) :
    (byName collected).size < collected.length + 1 := by
  have hsize := Table.size_ofList_le (collected.map fun c => (c.name.shown, c))
  rw [List.length_map] at hsize
  exact Nat.lt_succ_of_le hsize

def marked (collected : List ClassDecl) : List ClassDecl :=
  markAll (byName collected) (collected.length + 1) {} collected

theorem marks_marked (collected : List ClassDecl) :
    Marks (byName collected) {} collected (marked collected) :=
  marks_markAll (size_byName_lt collected)

theorem resolve_perm (collected : List ClassDecl) : (resolve collected).Perm (marked collected) :=
  List.mergeSort_perm _ _

theorem le_name_trans (a b c : ClassDecl) (hab : decide (a.name.shown ≤ b.name.shown) = true)
    (hbc : decide (b.name.shown ≤ c.name.shown) = true) :
    decide (a.name.shown ≤ c.name.shown) = true :=
  decide_eq_true (String.le_trans (of_decide_eq_true hab) (of_decide_eq_true hbc))

theorem le_name_total (a b : ClassDecl) :
    (decide (a.name.shown ≤ b.name.shown) || decide (b.name.shown ≤ a.name.shown)) = true := by
  rw [Bool.or_eq_true, decide_eq_true_eq, decide_eq_true_eq]
  exact String.le_total a.name.shown b.name.shown

theorem resolve_sorted (collected : List ClassDecl) :
    (resolve collected).Pairwise fun a b => a.name.shown ≤ b.name.shown := by
  have hsorted := List.pairwise_mergeSort le_name_trans le_name_total (marked collected)
  exact hsorted.imp of_decide_eq_true

theorem marked_isMarked (hn : (collected.map (·.name.shown)).Nodup) :
    List.Forall₂ (IsMarked collected) collected (marked collected) := by
  have hi := indexes_byName collected
  rw [values_byName hn] at hi
  exact (marks_marked collected).isMarked hi remembers_empty

theorem IsMarked.name_eq (h : IsMarked ds c m) : m.name = c.name := by
  rw [h.same]

theorem IsMarked.congr (h : IsMarked ds c m) (he : ds ⊆ es) (hd : es ⊆ ds) : IsMarked es c m := by
  constructor
  · exact h.same
  · intro hm
    exact (h.sound hm).mono he
  · intro hac hl
    exact h.complete (hac.mono he) (hl.mono hd)

theorem IsMarked.unique (hac : IsAcyclic ds) : Relator.RightUnique (IsMarked ds) := by
  intro c m m' hm hm'
  have hmark : m.isRefCounted = m'.isRefCounted := by
    rw [Bool.eq_iff_iff]
    constructor
    · intro h
      exact hm'.complete hac (hm.sound h)
    · intro h
      exact hm.complete hac (hm'.sound h)
  rw [hm.same, hm'.same, hmark]

theorem marked_perm (hn : (collected.map (·.name.shown)).Nodup) (hac : IsAcyclic collected)
    (hp : collected'.Perm collected) : (marked collected').Perm (marked collected) := by
  have hn' : (collected'.map (·.name.shown)).Nodup := (hp.map _).nodup_iff.2 hn
  have hmarked' : List.Forall₂ (IsMarked collected) collected' (marked collected') :=
    (marked_isMarked hn').imp fun _ _ h => h.congr hp.subset hp.symm.subset
  obtain ⟨ms, hms, hperm⟩ := List.perm_comp_forall₂ hp (marked_isMarked hn)
  rw [List.right_unique_forall₂' (IsMarked.unique hac) hmarked' hms]
  exact hperm

theorem nodup_names_marked (hn : (collected.map (·.name.shown)).Nodup) :
    ((marked collected).map (·.name.shown)).Nodup := by
  have hnames : List.Forall₂ (· = ·) ((marked collected).map (·.name.shown))
      (collected.map (·.name.shown)) := by
    rw [List.forall₂_map_left_iff, List.forall₂_map_right_iff]
    exact (marked_isMarked hn).flip.imp fun m c h => congrArg _ h.name_eq
  rw [List.forall₂_eq_eq_eq] at hnames
  rwa [hnames]

theorem resolve_eq_of_perm (hn : (collected.map (·.name.shown)).Nodup) (hac : IsAcyclic collected)
    (hp : collected'.Perm collected) : resolve collected' = resolve collected := by
  have hperm : (resolve collected').Perm (resolve collected) :=
    (resolve_perm collected').trans ((marked_perm hn hac hp).trans (resolve_perm collected).symm)
  have hnames := ((resolve_perm collected).map (·.name.shown)).nodup_iff.2 (nodup_names_marked hn)
  refine hperm.eq_of_pairwise (fun a b ha hb hab hba => ?_) (resolve_sorted collected')
    (resolve_sorted collected)
  exact List.inj_on_of_nodup_map hnames (hperm.subset ha) hb (String.le_antisymm hab hba)

/-- The search for the marks ends by itself with one result. Of each class only the mark is new,
the classes stand in the order of their names, and the marks are right; without cycles they are
complete, in whichever order the classes were collected. -/
theorem resolve_isMarked (hn : (collected.map (·.name.shown)).Nodup) :
    ∃ ms, (∀ ms', Marks (byName collected) {} collected ms' ↔ ms' = ms) ∧
      (resolve collected).Perm ms ∧ List.Forall₂ (IsMarked collected) collected ms ∧
      (resolve collected).Pairwise (fun a b => a.name.shown ≤ b.name.shown) ∧
      (IsAcyclic collected → ∀ collected', collected'.Perm collected →
        resolve collected' = resolve collected) := by
  refine ⟨marked collected, fun ms' => ⟨fun h => ?_, ?_⟩, resolve_perm collected,
    marked_isMarked hn, resolve_sorted collected, fun hac collected' hp => ?_⟩
  · exact (marks_marked collected).unique h
  · rintro rfl
    exact marks_marked collected
  · exact resolve_eq_of_perm hn hac hp

/-- Classes with a base that is named twice, and with one that is not known. -/
def scene : List ClassDecl := [
  { name := "Node", bases := ["Animatable", "Animatable", "Unknown"] },
  { name := "Animatable", bases := ["Serializable"] },
  { name := "Serializable", bases := ["Unknown", "RefCounted"] },
  { name := "Vector3", bases := ["Unknown"] }]

theorem isAcyclic_scene : IsAcyclic scene :=
  isAcyclic_of_rank
    (fun name => if name = "Node" then 3 else if name = "Animatable" then 2 else
      if name = "Serializable" ∨ name = "Vector3" then 1 else 0)
    (by decide)

theorem resolve_isMarked_scene :
    (scene.map (·.name.shown)).Nodup ∧ IsAcyclic scene ∧ ∃ ms,
      (∀ ms', Marks (byName scene) {} scene ms' ↔ ms' = ms) ∧ (resolve scene).Perm ms ∧
      List.Forall₂ (IsMarked scene) scene ms ∧
      ms.map (·.isRefCounted) = [true, true, true, false] ∧
      resolve scene.reverse = resolve scene := by
  have hn : (scene.map (·.name.shown)).Nodup := by decide
  obtain ⟨ms, hends, hperm, hmarked, -, horder⟩ := resolve_isMarked hn
  have hms : marked scene = ms := (hends _).1 (marks_marked scene)
  have hmarks : (marked scene).map (·.isRefCounted) = [true, true, true, false] := by decide
  rw [hms] at hmarks
  exact ⟨hn, isAcyclic_scene, ms, hends, hperm, hmarked, hmarks,
    horder isAcyclic_scene _ (List.reverse_perm scene)⟩

/-- On a cycle an answer that was cut off is remembered: `Part` leads to the root by way of `Whole`
and is not marked. -/
example : (marked [{ name := "Whole", bases := ["Part", "RefCounted"] },
    { name := "Part", bases := ["Whole"] }]).map (·.isRefCounted) = [true, false] := by decide

end Resolved

end ScriptGlue.Lineage

import Mathlib.Data.List.Basic
import ScriptGlue.Header.Collection
import ScriptGlue.Proofs.Outcome
import ScriptGlue.Proofs.Table

namespace ScriptGlue

namespace Run

variable {α β : Type} {f : β → α → Run β} {b b' : β}

theorem foldlM_nil_eq_ok : (([] : List α).foldlM f b).outcome = .ok b' ↔ b = b' := by
  rw [List.foldlM_nil, outcome_pure, Except.ok.injEq]

theorem foldlM_cons_eq_ok {x : α} {xs : List α} : ((x :: xs).foldlM f b).outcome = .ok b' ↔
    ∃ b₁, (f b x).outcome = .ok b₁ ∧ (xs.foldlM f b₁).outcome = .ok b' := by
  rw [List.foldlM_cons, bind_eq_ok]

theorem outcome_foldlM_congr {γ : Type} {g : β → γ → Run β} (h : α → γ)
    (hfg : ∀ b x, (f b x).outcome = (g b (h x)).outcome) (xs : List α) (b : β) :
    (xs.foldlM f b).outcome = ((xs.map h).foldlM g b).outcome := by
  induction xs generalizing b with
  | nil => rfl
  | cons x xs ih =>
    rw [List.map_cons, List.foldlM_cons, List.foldlM_cons, outcome_bind, outcome_bind, hfg]
    exact congrArg _ (funext ih)

end Run

/-- The tables of a collection. -/
inductive Shelf where
  | classes
  | enums
  | aliases
  | functions
  | fields

namespace Collected

variable {c c' : Collected} {s : Sighting} {ss : List Sighting} {shelf : Shelf} {key : String}

/-- The keys of a table in the order of its entries. -/
def keys (c : Collected) : Shelf → List String
  | .classes => c.classes.keys
  | .enums => c.enums.keys
  | .aliases => c.aliases.keys
  | .functions => c.functions.keys
  | .fields => c.fields.keys

end Collected

namespace Sighting

/-- Where a declaration is kept, and under which key. -/
def place? : Sighting → Option (Shelf × String)
  | excludedClass _ => none
  | classDecl key _ => some (.classes, key)
  | enumDecl key _ => some (.enums, key)
  | aliasDecl key _ => some (.aliases, key)
  | functionDecl key _ => some (.functions, key)
  | fieldDecl key _ => some (.fields, key)

def function? : Sighting → Option (String × Option FunctionDecl)
  | functionDecl key f? => some (key, f?)
  | _ => none

theorem place?_eq_functions {s : Sighting} {key : String} :
    s.place? = some (.functions, key) ↔ ∃ f?, s.function? = some (key, f?) := by
  cases s <;> simp [place?, function?]

end Sighting

namespace Collected

variable {c c' : Collected} {s : Sighting} {ss : List Sighting} {shelf : Shelf} {key : String}

theorem add_functionDecl (c : Collected) (key : String) (f? : Option FunctionDecl) :
    c.add (.functionDecl key f?) =
      if c.functions.contains key then pure c
      else
        match f? with
        | some f => pure { c with functions := c.functions.insertNew key f }
        | none => Run.stop .emptyToken := rfl

theorem mem_keys_add (h : (c.add s).outcome = .ok c') :
    key ∈ c'.keys shelf ↔ key ∈ c.keys shelf ∨ s.place? = some (shelf, key) := by
  cases s with
  | excludedClass name =>
    obtain ⟨_, -, ⟨⟩⟩ := Run.bind_eq_ok.1 h
    simp [Sighting.place?]
  | classDecl k d =>
    cases h
    cases shelf <;> simp [keys, Sighting.place?, Table.mem_keys_insertNew, eq_comm]
  | enumDecl k d =>
    cases h
    cases shelf <;> simp [keys, Sighting.place?, Table.mem_keys_insertNew, eq_comm]
  | aliasDecl k d =>
    cases h
    cases shelf <;> simp [keys, Sighting.place?, Table.mem_keys_insertNew, eq_comm]
  | functionDecl k d? =>
    rw [add_functionDecl] at h
    split at h
    · rename_i hk
      cases h
      have hk := Table.contains_iff_mem_keys.1 hk
      cases shelf <;> simp [keys, Sighting.place?]
      rintro rfl
      exact hk
    · cases d? with
      | none => cases h
      | some d =>
        cases h
        cases shelf <;> simp [keys, Sighting.place?, Table.mem_keys_insertNew, eq_comm]
  | fieldDecl k d =>
    cases h
    cases shelf <;> simp [keys, Sighting.place?, Table.mem_keys_insertNew, eq_comm]

theorem add_of_mem (h : ∀ shelf key, s.place? = some (shelf, key) → key ∈ c.keys shelf) :
    (c.add s).outcome = .ok c := by
  cases s with
  | excludedClass name => rfl
  | classDecl k d =>
    have hk : c.classes.contains k = true := Table.contains_iff_mem_keys.2 (h .classes k rfl)
    exact congrArg (fun t => Except.ok { c with classes := t }) (Table.insertNew_of_contains hk d)
  | enumDecl k d =>
    have hk : c.enums.contains k = true := Table.contains_iff_mem_keys.2 (h .enums k rfl)
    exact congrArg (fun t => Except.ok { c with enums := t }) (Table.insertNew_of_contains hk d)
  | aliasDecl k d =>
    have hk : c.aliases.contains k = true := Table.contains_iff_mem_keys.2 (h .aliases k rfl)
    exact congrArg (fun t => Except.ok { c with aliases := t }) (Table.insertNew_of_contains hk d)
  | functionDecl k d? =>
    have hk : c.functions.contains k = true := Table.contains_iff_mem_keys.2 (h .functions k rfl)
    rw [add_functionDecl, if_pos hk]
    rfl
  | fieldDecl k d =>
    have hk : c.fields.contains k = true := Table.contains_iff_mem_keys.2 (h .fields k rfl)
    exact congrArg (fun t => Except.ok { c with fields := t }) (Table.insertNew_of_contains hk d)

theorem add_ends (c : Collected) (s : Sighting) : (∃ c', (c.add s).outcome = .ok c') ∨
    (c.add s).outcome = .error .emptyToken ∧ ∃ key, s = .functionDecl key none := by
  cases s with
  | functionDecl k d? =>
    rw [add_functionDecl]
    split
    · exact .inl ⟨_, rfl⟩
    · cases d? with
      | some d => exact .inl ⟨_, rfl⟩
      | none => exact .inr ⟨rfl, k, rfl⟩
  | _ => exact .inl ⟨_, rfl⟩

theorem get?_functions_add (h : (c.add s).outcome = .ok c') :
    c'.functions.get? key =
      (c.functions.get? key).or ((s.function?.toList.lookup key).join) := by
  cases s with
  | excludedClass name =>
    obtain ⟨_, -, ⟨⟩⟩ := Run.bind_eq_ok.1 h
    exact Option.or_none.symm
  | functionDecl k d? =>
    rw [Sighting.function?, Option.toList_some, Table.lookup_entry, List.lookup_nil]
    rw [add_functionDecl] at h
    split at h
    · rename_i hk
      cases h
      obtain ⟨f, hf⟩ := Option.isSome_iff_exists.1 hk
      split
      · rename_i he
        rw [he, hf]
        rfl
      · exact Option.or_none.symm
    · cases d? with
      | none => cases h
      | some d =>
        cases h
        rw [Table.get?_insertNew]
        split <;> rfl
  | _ =>
    cases h
    exact Option.or_none.symm

/-- Each declaration of the collection has the property, seen as one that was just met. -/
structure Holds (P : Sighting → Prop) (c : Collected) : Prop where
  classes : ∀ e ∈ c.classes.entries, P (.classDecl e.1 e.2)
  enums : ∀ e ∈ c.enums.entries, P (.enumDecl e.1 e.2)
  aliases : ∀ e ∈ c.aliases.entries, P (.aliasDecl e.1 e.2)
  functions : ∀ e ∈ c.functions.entries, P (.functionDecl e.1 (some e.2))
  fields : ∀ e ∈ c.fields.entries, P (.fieldDecl e.1 e.2)

variable {P : Sighting → Prop}

theorem holds_empty (P : Sighting → Prop) : Holds P {} :=
  ⟨List.forall_mem_nil _, List.forall_mem_nil _, List.forall_mem_nil _, List.forall_mem_nil _,
    List.forall_mem_nil _⟩

theorem Holds.imp {Q : Sighting → Prop} (h : c.Holds P) (hPQ : ∀ s, P s → Q s) : c.Holds Q :=
  ⟨fun e he => hPQ _ (h.classes e he), fun e he => hPQ _ (h.enums e he),
    fun e he => hPQ _ (h.aliases e he), fun e he => hPQ _ (h.functions e he),
    fun e he => hPQ _ (h.fields e he)⟩

theorem forall_mem_insertNew {α : Type} {t : Table String α} {k : String} {v : α}
    {Q : String × α → Prop} (ht : ∀ e ∈ t.entries, Q e) (hv : Q (k, v)) :
    ∀ e ∈ (t.insertNew k v).entries, Q e := by
  intro e he
  rcases Table.mem_entries_of_insertNew he with he | rfl
  · exact ht e he
  · exact hv

theorem Holds.add (hc : c.Holds P) (hs : P s) (h : (c.add s).outcome = .ok c') : c'.Holds P := by
  cases s with
  | excludedClass name =>
    obtain ⟨_, -, ⟨⟩⟩ := Run.bind_eq_ok.1 h
    exact hc
  | classDecl k d =>
    cases h
    exact { hc with classes := forall_mem_insertNew hc.classes hs }
  | enumDecl k d =>
    cases h
    exact { hc with enums := forall_mem_insertNew hc.enums hs }
  | aliasDecl k d =>
    cases h
    exact { hc with aliases := forall_mem_insertNew hc.aliases hs }
  | functionDecl k d? =>
    rw [add_functionDecl] at h
    split at h
    · cases h
      exact hc
    · cases d? with
      | none => cases h
      | some d =>
        cases h
        exact { hc with functions := forall_mem_insertNew hc.functions hs }
  | fieldDecl k d =>
    cases h
    exact { hc with fields := forall_mem_insertNew hc.fields hs }

theorem Holds.fold (hc : c.Holds P) (hss : ∀ s ∈ ss, P s)
    (h : (ss.foldlM Collected.add c).outcome = .ok c') : c'.Holds P := by
  induction ss generalizing c with
  | nil =>
    rw [← Run.foldlM_nil_eq_ok.1 h]
    exact hc
  | cons s ss ih =>
    obtain ⟨hs, hss⟩ := List.forall_mem_cons.1 hss
    obtain ⟨c₁, h₁, h⟩ := Run.foldlM_cons_eq_ok.1 h
    exact ih (hc.add hs h₁) hss h

theorem mem_keys_of_fold (h : (ss.foldlM add c).outcome = .ok c') :
    key ∈ c'.keys shelf ↔ key ∈ c.keys shelf ∨ ∃ s ∈ ss, s.place? = some (shelf, key) := by
  induction ss generalizing c with
  | nil =>
    rw [Run.foldlM_nil_eq_ok.1 h]
    simp
  | cons s ss ih =>
    obtain ⟨c₁, hs, hss⟩ := Run.foldlM_cons_eq_ok.1 h
    rw [ih hss, mem_keys_add hs, List.exists_mem_cons_iff, or_assoc]

theorem fold_of_mem
    (h : ∀ s ∈ ss, ∀ shelf key, s.place? = some (shelf, key) → key ∈ c.keys shelf) :
    (ss.foldlM add c).outcome = .ok c := by
  induction ss with
  | nil => rfl
  | cons s ss ih =>
    obtain ⟨hs, hss⟩ := List.forall_mem_cons.1 h
    exact Run.foldlM_cons_eq_ok.2 ⟨c, add_of_mem hs, ih hss⟩

theorem fold_ends (c : Collected) (ss : List Sighting) :
    (∃ c', (ss.foldlM add c).outcome = .ok c') ∨
      (ss.foldlM add c).outcome = .error .emptyToken ∧
        ∃ key, Sighting.functionDecl key none ∈ ss := by
  induction ss generalizing c with
  | nil => exact .inl ⟨c, rfl⟩
  | cons s ss ih =>
    rw [List.foldlM_cons, Run.outcome_bind]
    -- The fold stops at the first step that does.
    rcases add_ends c s with ⟨c₁, h₁⟩ | ⟨he, key, rfl⟩
    · rw [h₁]
      refine (ih c₁).imp id fun ⟨he, key, hkey⟩ => ⟨he, key, List.mem_cons_of_mem s hkey⟩
    · rw [he]
      exact .inr ⟨rfl, key, List.mem_cons_self⟩

theorem get?_functions_of_fold (h : (ss.foldlM add c).outcome = .ok c') :
    c'.functions.get? key =
      (c.functions.get? key).or (((ss.filterMap Sighting.function?).lookup key).join) := by
  induction ss generalizing c with
  | nil =>
    rw [Run.foldlM_nil_eq_ok.1 h]
    exact Option.or_none.symm
  | cons s ss ih =>
    obtain ⟨c₁, hs, hss⟩ := Run.foldlM_cons_eq_ok.1 h
    have hadd : c₁.functions.get? key = _ := get?_functions_add hs
    rw [ih hss]
    cases hf : s.function? with
    | none =>
      rw [hf, Option.toList_none, List.lookup_nil, Option.join_none, Option.or_none] at hadd
      rw [hadd, List.filterMap_cons_none hf]
    | some e =>
      rw [hf, Option.toList_some, Table.lookup_entry, List.lookup_nil] at hadd
      rw [List.filterMap_cons_some hf, Table.lookup_entry]
      by_cases he : key = e.1
      · -- The key is there after the step, so nothing that follows can take it.
        have hkey : key ∈ c₁.keys .functions :=
          (mem_keys_add hs).2 (.inr (Sighting.place?_eq_functions.2 ⟨e.2, by rw [hf, he]⟩))
        obtain ⟨f, hc₁⟩ := Option.isSome_iff_exists.1 (Table.contains_iff_mem_keys.2 hkey)
        rw [if_pos he] at hadd ⊢
        rw [← hadd, hc₁, Option.some_or]
      · rw [if_neg he, Option.join_none, Option.or_none] at hadd
        rw [if_neg he, hadd]

end Collected

namespace Collection

variable {p : HeaderParser} {r : CollectionRules} {conventions : Conventions}
  {arguments : List String} {headers : List Path} {emitDiagnostics : Bool} {i : Inputs}
  {c : Collected}

theorem foldlM_visit (r : CollectionRules) (units : List Cursor) (c : Collected) :
    units.foldlM (visit r) c = (units.flatMap r.sightings).foldlM Collected.add c := by
  induction units generalizing c with
  | nil => rfl
  | cons u us ih =>
    rw [List.foldlM_cons, List.flatMap_cons, List.foldlM_append]
    exact bind_congr fun c₁ => ih c₁

theorem outcome_parseHeader (p : HeaderParser) (r : CollectionRules) (arguments : List String)
    (emitDiagnostics : Bool) (c : Collected) (h : Path) :
    (parseHeader p r arguments emitDiagnostics c h).outcome =
      (visit r c (p.parse h.text).cursor).outcome := by
  rw [parseHeader, Run.outcome_bind]
  cases emitDiagnostics with
  | true => exact Run.outcome_bind _ _
  | false => rfl

theorem collect_eq_ok
    (h : (collect p r conventions arguments headers emitDiagnostics).outcome = .ok i) : ∃ c,
      ((headers.map fun h => (p.parse h.text).cursor).foldlM (visit r) {}).outcome = .ok c ∧
        inputs conventions c = i := by
  rw [collect] at h
  split at h
  · cases h
  dsimp only at h
  split at h
  · cases h
  obtain ⟨c, hc, h⟩ := Run.bind_eq_ok.1 h
  obtain ⟨_, -, h⟩ := Run.bind_eq_ok.1 h
  obtain ⟨_, -, h⟩ := Run.bind_eq_ok.1 h
  rw [Run.outcome_foldlM_congr _ (outcome_parseHeader p r arguments emitDiagnostics)] at hc
  exact ⟨c, hc, Except.ok.inj h⟩

theorem outcome_collect (hload : p.loadError? = none)
    (hfilters : r.filters.any (·.contains '\x00') = false)
    (hc : ((headers.map fun h => (p.parse h.text).cursor).foldlM (visit r) {}).outcome = .ok c) :
    (collect p r conventions arguments headers emitDiagnostics).outcome =
      .ok (inputs conventions c) := by
  rw [← Run.outcome_foldlM_congr _ (outcome_parseHeader p r arguments emitDiagnostics)] at hc
  rw [collect, hload, hfilters]
  exact Run.bind_eq_ok.2 ⟨c, hc, rfl⟩

end Collection

end ScriptGlue

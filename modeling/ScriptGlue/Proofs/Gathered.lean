import ScriptGlue.CommandLine.Session
import ScriptGlue.Proofs.Delivery
import ScriptGlue.Proofs.Reload
import ScriptGlue.Proofs.Visit
import ScriptGlue.Proofs.Walk

namespace ScriptGlue

theorem Json.optional_eq_ok {α : Type} {ms : List (String × Json)} {field : String}
    {read : Json → Except DecodeFault α} {default a : α}
    (h : optional ms field read default = .ok a) : a = default ∨ ∃ j, read j = .ok a := by
  rw [optional] at h
  split at h
  · exact .inr ⟨_, h⟩
  · exact .inl (Except.ok.inj h).symm

theorem normalizeName_of_declaredType {ms : List (String × Json)} {t : CppType}
    (h : declaredType ms = .ok t) : CppType.normalizeName t.name = t.name := by
  rw [declaredType] at h
  split at h
  · exact CppType.normalizeName_of_ofJson h
  · rw [← Except.ok.inj h]
    exact CppType.normalizeName_ofSpelling _

theorem normalizeName_of_parameter {j : Json} {p : Parameter} (h : Parameter.ofJson j = .ok p) :
    CppType.normalizeName p.type.name = p.type.name := by
  obtain ⟨ms, -, h⟩ := Outcome.bind_eq_ok.1 h
  obtain ⟨name, -, h⟩ := Outcome.bind_eq_ok.1 h
  obtain ⟨t, ht, h⟩ := Outcome.bind_eq_ok.1 h
  rw [← Except.ok.inj h]
  exact normalizeName_of_declaredType ht

theorem normalizeName_of_field {j : Json} {f : FieldDecl} (h : FieldDecl.ofJson j = .ok f) :
    CppType.normalizeName f.type.name = f.type.name := by
  obtain ⟨ms, -, h⟩ := Outcome.bind_eq_ok.1 h
  obtain ⟨name, -, h⟩ := Outcome.bind_eq_ok.1 h
  obtain ⟨t, ht, h⟩ := Outcome.bind_eq_ok.1 h
  obtain ⟨owner, -, h⟩ := Outcome.bind_eq_ok.1 h
  rw [← Except.ok.inj h]
  exact normalizeName_of_declaredType ht

theorem nodup_keys_of_specializationOfJson {j : Json} {t : Table Key Attribute}
    (h : specializationOfJson j = .ok t) : t.keys.Nodup := by
  rw [specializationOfJson.eq_def] at h
  split at h
  · rw [← Except.ok.inj h]
    exact Table.nodup_keys_ofList _
  · obtain ⟨xs, -, h⟩ := Outcome.bind_eq_ok.1 h
    obtain ⟨es, -, h⟩ := Outcome.bind_eq_ok.1 h
    rw [← Except.ok.inj h]
    exact Table.nodup_keys_ofList es

theorem FunctionDecl.isCanonical_of_ofJson {j : Json} {f : FunctionDecl}
    (h : ofJson j = .ok f) : f.IsCanonical := by
  obtain ⟨ms, -, h⟩ := Outcome.bind_eq_ok.1 h
  obtain ⟨name, -, h⟩ := Outcome.bind_eq_ok.1 h
  obtain ⟨result, hresult, h⟩ := Outcome.bind_eq_ok.1 h
  obtain ⟨ps, hps, h⟩ := Outcome.bind_eq_ok.1 h
  obtain ⟨kind, -, h⟩ := Outcome.bind_eq_ok.1 h
  obtain ⟨specialization, hspecialization, h⟩ := Outcome.bind_eq_ok.1 h
  rw [← Except.ok.inj h]
  refine ⟨?_, fun p hp => ?_, ?_⟩
  · rcases Json.optional_eq_ok hresult with rfl | ⟨j, hj⟩
    · exact CppType.normalizeName_ofSpelling _
    · exact CppType.normalizeName_of_ofJson hj
  · rcases Json.optional_eq_ok hps with rfl | ⟨j, hj⟩
    · exact absurd hp List.not_mem_nil
    · obtain ⟨js, -, hj⟩ := Outcome.bind_eq_ok.1 hj
      obtain ⟨j, -, hj⟩ := exists_of_mem_forall₂ (Outcome.mapM_eq_ok.1 hj) hp
      exact normalizeName_of_parameter hj
  · rcases Json.optional_eq_ok hspecialization with rfl | ⟨j, hj⟩
    · exact List.nodup_nil
    · exact nodup_keys_of_specializationOfJson hj

theorem forall_mem_of_readList {α : Type} {P : α → Prop} {ms : List (String × Json)}
    {field : String} {read : Json → Except DecodeFault α} {xs : List α}
    (h : readList ms field read = .ok xs) (hread : ∀ j x, read j = .ok x → P x) :
    ∀ x ∈ xs, P x := by
  intro x hx
  rcases Json.optional_eq_ok h with rfl | ⟨j, hj⟩
  · exact absurd hx List.not_mem_nil
  · obtain ⟨js, -, hj⟩ := Outcome.bind_eq_ok.1 hj
    obtain ⟨j, -, hj⟩ := exists_of_mem_forall₂ (Outcome.mapM_eq_ok.1 hj) hx
    exact hread j x hj

namespace Inputs

variable {conventions : Conventions} {i : Inputs} {path here : Path} {t : FileTree}

theorem isCanonical_of_ofDocument {j : Json} (h : (ofDocument conventions path j).outcome = .ok i) :
    i.IsCanonical conventions := by
  obtain ⟨e, -, h⟩ := Run.bind_eq_ok.1 h
  obtain ⟨_, -, h⟩ := Run.bind_eq_ok.1 h
  cases he : e.isIndexable with
  | false =>
    rw [he] at h
    cases h
  | true =>
    rw [he] at h
    obtain ⟨ms, -, h⟩ := Run.bind_eq_ok.1 h
    obtain ⟨fs, hfs, h⟩ := Run.bind_eq_ok.1 h
    obtain ⟨ds, hds, h⟩ := Run.bind_eq_ok.1 h
    obtain ⟨_, -, h⟩ := Run.bind_eq_ok.1 h
    rw [← Except.ok.inj h]
    refine ⟨⟨e, he, rfl⟩, ?_, ?_⟩
    · exact forall_mem_of_readList (Run.ofExcept_eq_ok.1 hfs) fun _ _ =>
        FunctionDecl.isCanonical_of_ofJson
    · exact forall_mem_of_readList (Run.ofExcept_eq_ok.1 hds) fun _ _ => normalizeName_of_field

theorem isCanonical_of_load (h : (load conventions t here path).outcome = .ok i) :
    i.IsCanonical conventions := by
  obtain ⟨text, -, h⟩ := Run.bind_eq_ok.1 h
  rw [ofText] at h
  split at h
  · exact isCanonical_of_ofDocument h
  · cases h

end Inputs

namespace Lineage

variable {ds : List ClassDecl} {d : ClassDecl}

theorem exists_of_mem_markAll {classes : Table String ClassDecl} {depth : Nat}
    {memory : Table String Bool} (h : d ∈ markAll classes depth memory ds) :
    ∃ c ∈ ds, ∃ b, d = { c with isRefCounted := b } := by
  induction ds generalizing memory with
  | nil => exact absurd h List.not_mem_nil
  | cons c cs ih =>
    rcases List.mem_cons.1 h with rfl | h
    · exact ⟨c, List.mem_cons_self, _, rfl⟩
    · obtain ⟨e, he, hd⟩ := ih h
      exact ⟨e, List.mem_cons_of_mem c he, hd⟩

theorem exists_of_mem_resolve (h : d ∈ resolve ds) :
    ∃ c ∈ ds, ∃ b, d = { c with isRefCounted := b } :=
  exists_of_mem_markAll (List.mem_mergeSort.1 h)

end Lineage

def Sighting.IsCanonical : Sighting → Prop
  | excludedClass _ => True
  | classDecl _ d => d.IsIndexable
  | enumDecl _ e => e.name.key?.isSome = true
  | aliasDecl _ a => a.name.key?.isSome = true
  | functionDecl _ f? => ∀ f, f? = some f → f.IsCanonical
  | fieldDecl _ f => CppType.normalizeName f.type.name = f.type.name

theorem exists_of_mem_mapM {α β : Type} {f : α → Option β} {xs : List α} {ys : List β} {y : β}
    (h : xs.mapM f = some ys) (hy : y ∈ ys) : ∃ x ∈ xs, f x = some y := by
  induction xs generalizing ys with
  | nil =>
    cases h
    exact absurd hy List.not_mem_nil
  | cons x xs ih =>
    rw [List.mapM_cons] at h
    obtain ⟨y₁, h₁, h⟩ := Option.bind_eq_some_iff.1 h
    obtain ⟨ys₁, hys, h⟩ := Option.bind_eq_some_iff.1 h
    cases h
    rcases List.mem_cons.1 hy with rfl | hy
    · exact ⟨x, List.mem_cons_self, h₁⟩
    · obtain ⟨z, hz, hf⟩ := ih hys hy
      exact ⟨z, List.mem_cons_of_mem x hz, hf⟩

namespace CollectionRules

variable {r : CollectionRules} {i : CursorInfo} {cs : List Cursor} {owner : Attribute}
  {kind : FunctionKind} {f : FunctionDecl} {n : NodePath} {s : Sighting}

theorem isCanonical_of_function? (h : r.function? i owner kind = some f) : f.IsCanonical := by
  obtain ⟨ps, hps, h⟩ := Option.bind_eq_some_iff.1 h
  cases h
  refine ⟨CppType.normalizeName_ofSpelling _, fun p hp => ?_, List.nodup_nil⟩
  obtain ⟨e, -, he⟩ := exists_of_mem_mapM hps hp
  obtain ⟨v?, -, he⟩ := Option.bind_eq_some_iff.1 he
  cases he
  exact CppType.normalizeName_ofSpelling _

theorem isCanonical_of_mem_functionSightings (hs : s ∈ r.functionSightings i owner kind) :
    s.IsCanonical := by
  rw [functionSightings] at hs
  split at hs
  · exact absurd hs List.not_mem_nil
  · rw [List.mem_singleton.1 hs]
    exact fun f hf => isCanonical_of_function? hf

theorem isCanonical_of_mem_shownAt (hs : s ∈ r.shownAt n) : s.IsCanonical := by
  match n with
  | [] => exact absurd hs List.not_mem_nil
  | .node i cs :: above =>
    refine shownAt_cases hs trivial (fun _ => ⟨rfl, .inl rfl⟩) (fun s hs => ?_) (fun s hs => ?_)
      (fun _ _ s hs => isCanonical_of_mem_functionSightings hs) (fun _ s hs => ?_)
    · rw [enumSightings] at hs
      split at hs
      · exact absurd hs List.not_mem_nil
      · rw [List.mem_singleton.1 hs]
        rfl
    · rw [aliasSightings] at hs
      split at hs
      · exact absurd hs List.not_mem_nil
      · rw [List.mem_singleton.1 hs]
        rfl
    · rw [List.mem_singleton.1 hs]
      exact CppType.normalizeName_ofSpelling _

theorem isCanonical_of_mem_sightings {u : Cursor} (hs : s ∈ r.sightings u) : s.IsCanonical := by
  rw [sightings_eq] at hs
  obtain ⟨n, -, hs⟩ := List.mem_flatMap.1 hs
  exact isCanonical_of_mem_shownAt hs

end CollectionRules

namespace Collection

variable {p : HeaderParser} {r : CollectionRules} {conventions : Conventions}
  {arguments : List String} {headers : List Path} {emitDiagnostics : Bool} {i : Inputs}

theorem holds_shownAt {units : List Cursor} {c : Collected}
    (h : (units.foldlM (visit r) {}).outcome = .ok c) :
    c.Holds fun s => ∃ u ∈ units, ∃ n ∈ u.paths, s ∈ r.shownAt n := by
  rw [foldlM_visit] at h
  refine (Collected.holds_empty _).fold (fun s hs => ?_) h
  obtain ⟨u, hu, hs⟩ := List.mem_flatMap.1 hs
  rw [CollectionRules.sightings_eq] at hs
  obtain ⟨n, hn, hs⟩ := List.mem_flatMap.1 hs
  exact ⟨u, hu, n, hn, hs⟩

theorem isCanonical_of_holds {c : Collected} (h : c.Holds Sighting.IsCanonical) :
    (inputs conventions c).IsCanonical conventions := by
  refine ⟨⟨⟨Lineage.resolve c.classes.values, c.enums.values, c.aliases.values⟩, ?_, rfl⟩, ?_, ?_⟩
  · refine CatalogEntries.isIndexable_iff.2 ⟨⟨?_, ?_⟩, ?_⟩
    · rw [CatalogEntries.indexable_of_forall fun d hd => ?_]
      obtain ⟨c, hc, b, rfl⟩ := Lineage.exists_of_mem_resolve hd
      obtain ⟨e, he, rfl⟩ := List.mem_map.1 hc
      exact h.classes e he
    · intro d hd
      obtain ⟨e, he, rfl⟩ := List.mem_map.1 hd
      exact h.enums e he
    · intro a ha
      obtain ⟨e, he, rfl⟩ := List.mem_map.1 ha
      exact h.aliases e he
  · intro f hf
    obtain ⟨e, he, rfl⟩ := List.mem_map.1 hf
    exact h.functions e he e.2 rfl
  · intro f hf
    obtain ⟨e, he, rfl⟩ := List.mem_map.1 hf
    exact h.fields e he

theorem isCanonical_of_collect
    (h : (collect p r conventions arguments headers emitDiagnostics).outcome = .ok i) :
    i.IsCanonical conventions := by
  obtain ⟨c, hc, rfl⟩ := collect_eq_ok h
  rw [foldlM_visit] at hc
  refine isCanonical_of_holds ((Collected.holds_empty _).fold (fun s hs => ?_) hc)
  obtain ⟨u, -, hs⟩ := List.mem_flatMap.1 hs
  exact CollectionRules.isCanonical_of_mem_sightings hs

end Collection

namespace Inputs

/-- The inputs come from a catalog that was loaded, or from headers. -/
inductive IsGathered (conventions : Conventions) : Inputs → Prop
  | loaded {t : FileTree} {here path : Path} {i : Inputs}
      (h : (load conventions t here path).outcome = .ok i) : IsGathered conventions i
  | collected {p : HeaderParser} {r : CollectionRules} {arguments : List String}
      {headers : List Path} {emitDiagnostics : Bool} {i : Inputs}
      (h : (Collection.collect p r conventions arguments headers emitDiagnostics).outcome = .ok i) :
      IsGathered conventions i

variable {conventions : Conventions} {i : Inputs}

theorem IsGathered.isCanonical (h : IsGathered conventions i) : i.IsCanonical conventions := by
  cases h with
  | loaded h => exact isCanonical_of_load h
  | collected h => exact Collection.isCanonical_of_collect h

/-- The document of inputs that were gathered describes the same inputs, so what is emitted from it
is the same as well. -/
theorem ofDocument_of_isGathered (h : IsGathered conventions i) (ht : i.HasTextSpecializations)
    (path : Path) :
    (ofDocument conventions path i.toJson).outcome = .ok i ∧
      ∀ s told library o d,
        (ofDocument conventions path i.toJson >>= CommandLine.emit s told library o d).outcome =
          (CommandLine.emit s told library o d i).outcome := by
  have hread : (ofDocument conventions path i.toJson).outcome = .ok i :=
    ofDocument_toJson h.isCanonical ht path
  refine ⟨hread, fun s told library o d => ?_⟩
  rw [Run.outcome_bind, hread]
  rfl

/-- Two classes of one name, and a function that stands for an instance of a template. -/
def pinText : String :=
  "\x7b\"classes\": [\x7b\"name\": \"Pin\"\x7d, \x7b\"name\": \"Pin\"\x7d],
  \"functions\": [\x7b\"name\": \"f\", \"template_specialization\": \x7b\"T\": \"Pin\"\x7d\x7d]\x7d"

def pinPath : Path := ⟨1, ["catalog.json"]⟩

def pinTree : FileTree := ⟨[(pinPath.parts, .file pinText)]⟩

theorem exists_load_pin : ∃ i, (load {} pinTree ⟨1, []⟩ pinPath).outcome = .ok i ∧
    i.HasTextSpecializations ∧ i.catalog.classes.size = 1 ∧ i.functions.length = 1 := by
  have hn : pinPath.hasNullCharacter = false := by simp [Path.hasNullCharacter, pinPath]
  have hl : pinTree.locate pinPath = .ok pinPath.parts := by
    rw [FileTree.locate, hn]
    rfl
  have hchars : pinText.toList = _ := String.toList_ofList
  have htext : ((ofText {} pinPath pinText).outcome.toOption.any fun i =>
      decide (i.HasTextSpecializations ∧ i.catalog.classes.size = 1 ∧ i.functions.length = 1)) =
        true := by
    rw [ofText, Json.read, hchars]
    decide +kernel
  obtain ⟨i, hi, hcheck⟩ := (Option.any_eq_true ..).1 htext
  refine ⟨i, Run.bind_eq_ok.2 ⟨pinText, Run.ofExcept_eq_ok.2 ?_,
    Outcome.toOption_eq_some.1 hi⟩, of_decide_eq_true hcheck⟩
  exact FileTree.read_eq hl rfl

theorem ofDocument_of_isGathered_pin :
    ∃ i, (load {} pinTree ⟨1, []⟩ pinPath).outcome = .ok i ∧
      i.HasTextSpecializations ∧ i.catalog.classes.size = 1 ∧ i.functions.length = 1 ∧
      (ofDocument {} pinPath i.toJson).outcome = .ok i ∧
      ∀ s told library o d,
        (ofDocument {} pinPath i.toJson >>= CommandLine.emit s told library o d).outcome =
          (CommandLine.emit s told library o d i).outcome := by
  obtain ⟨i, hi, ht, hclasses, hfunctions⟩ := exists_load_pin
  exact ⟨i, hi, ht, hclasses, hfunctions, ofDocument_of_isGathered (.loaded hi) ht pinPath⟩

end Inputs

end ScriptGlue

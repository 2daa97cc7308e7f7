import ScriptGlue.CommandLine.Session
import ScriptGlue.Proofs.Delivery
import ScriptGlue.Proofs.WellTyped
import ScriptGlue.Proofs.WrapperNames

namespace ScriptGlue

/-- The text is a source that has the wrappers and the registrations of the entries, in their order
and no others. -/
def Glue.IsSource (o : GlueOptions) (headers : List Attribute) (bound : List BoundEntry)
    (text : String) : Prop :=
  ∃ wrappers registrations, text = sourceText o headers wrappers registrations ∧
    List.Forall₂ BoundEntry.IsDefinedBy (bound.filter (·.wrapper?.isSome)) wrappers ∧
    List.Forall₂ BoundEntry.IsRegisteredBy bound registrations

/-- The generated file has the text, but for the way its lines end. A dry run writes none. -/
def Destination.Holds (d : Destination) (t : FileTree) (text : String) : Prop :=
  d.dryRun = false →
    (t.read d.sourcePath).map Text.normalizeNewlines = .ok (Text.normalizeNewlines text)

namespace CommandLine

variable {s s' : LoggedTree} {told : List Notice} {library : FileTree → TemplateLibrary}
  {o : GlueOptions} {d : Destination} {i : Inputs} {r : Report}

/-- The inputs are of the types that they are declared with, the templates are the packaged ones,
and the generated file can be written. -/
structure IsReady (s : LoggedTree) (library : FileTree → TemplateLibrary) (o : GlueOptions)
    (d : Destination) (i : Inputs) : Prop where
  typed : i.IsTyped
  head : o.strippedHead.isText = true
  template : o.bindingsTemplate = Template.bindingsName
  packaged : ∀ t, library t = .packaged
  writable : ∀ told, (s.view told).IsWritable d.sourcePath

theorem emit_eq_ok : (emit s told library o d i).outcome = .ok (s', r) ↔ ∃ g,
    (Glue.generate (fun more => library (s.view (told ++ more))) o i).outcome = .ok g ∧
      (s.deliver (told ++ (Glue.generate (fun more => library (s.view (told ++ more))) o i).notices)
        d.dryRun d.sourcePath g.text).outcome = .ok s' ∧ g.report = r := by
  rw [emit]
  simp only [Run.bind_eq_ok, Run.outcome_tell, Run.outcome_pure, Except.ok.injEq, Prod.mk.injEq]
  constructor
  · rintro ⟨g, hg, s₁, hs, _, -, rfl, rfl⟩
    exact ⟨g, hg, hs, rfl⟩
  · rintro ⟨g, hg, hs, rfl⟩
    exact ⟨g, hg, s', hs, (), trivial, rfl, rfl⟩

theorem emit_total (h : IsReady s library o d i) (told : List Notice) :
    ∃ s' r, (emit s told library o d i).outcome = .ok (s', r) := by
  obtain ⟨g, hg⟩ : ∃ g,
      (Glue.generate (fun more => library (s.view (told ++ more))) o i).outcome = .ok g :=
    Glue.generate_total h.typed (fun _ => h.packaged _) h.template h.head
  obtain ⟨s', hs⟩ := LoggedTree.deliver_total (h.writable _)
  exact ⟨s', g.report, emit_eq_ok.2 ⟨g, hg, hs, rfl⟩⟩

theorem emit_lists (h : (emit s told library o d i).outcome = .ok (s', r)) :
    r.Lists (i.functionEntries ++ i.fieldEntries o) := by
  obtain ⟨g, hg, -, rfl⟩ := emit_eq_ok.1 h
  exact Glue.generate_lists hg

theorem emit_bindings (hl : ∀ t, library t = .packaged)
    (ho : o.bindingsTemplate = Template.bindingsName)
    (h : (emit s told library o d i).outcome = .ok (s', r)) : ∃ functions,
      List.Forall₂ (fun w b => w.bind .packaged o = .ok b) i.selected functions ∧
      d.Holds s'.tree (Glue.sourceText o (i.headers o.strippedHead)
        ((functions ++ i.boundFields o).filterMap (·.wrapperSource?))
        ((functions ++ i.boundFields o).map (·.registration.text))) ∧
      r.bound = (functions ++ i.boundFields o).map (·.entry) := by
  obtain ⟨g, hg, hs, rfl⟩ := emit_eq_ok.1 h
  obtain ⟨functions, hf, htext, hbound⟩ := Glue.generate_bindings (fun _ => hl _) ho hg
  refine ⟨functions, hf, ?_, hbound⟩
  intro hd
  rw [hd, htext] at hs
  exact LoggedTree.read_deliver hs

theorem emit_text (hl : ∀ t, library t = .packaged)
    (ho : o.bindingsTemplate = Template.bindingsName)
    (h : (emit s told library o d i).outcome = .ok (s', r)) :
    ∃ text, Glue.IsSource o (i.headers o.strippedHead) r.bound text ∧ d.Holds s'.tree text := by
  obtain ⟨g, hg, hs, rfl⟩ := emit_eq_ok.1 h
  refine ⟨g.text, Glue.generate_text (fun _ => hl _) ho hg, ?_⟩
  intro hd
  rw [hd] at hs
  exact LoggedTree.read_deliver hs

/-- A directory of its own in a tree that has nothing yet. -/
def freshDestination : Destination where
  directory := ⟨1, ["out"]⟩

theorem freshDestination_isWritable : FileTree.IsWritable {} freshDestination.sourcePath := by
  have hp : freshDestination.sourcePath = ⟨1, ["out", "GeneratedGlue.cpp"]⟩ := by decide
  refine hp ▸ FileTree.isWritable_of_item?_eq_none ?_ (by decide) (by decide) (by decide)
    (by decide) rfl rfl
  simp [Path.hasNullCharacter]

theorem isReady_of_isTyped (hi : i.IsTyped) :
    IsReady { tree := {} } (fun _ => .packaged) {} freshDestination i where
  typed := hi
  head := rfl
  template := rfl
  packaged _ := rfl
  writable _ := freshDestination_isWritable

/-- Two functions that would share the name of their wrapper, one that does not convert, one that is
registered as it stands, and a field. -/
def loaders : Inputs where
  catalog := .build {} [{ name := "Node", isRefCounted := true },
    { name := "Image", isRefCounted := true }] [] []
  functions := [
    { name := "Load", returnType := .plain "SharedPtr<Image>",
      parameters := [{ name := "node", type := { name := "Node", isPointer := true } }] },
    { name := "Load", returnType := .plain "SharedPtr<Image>",
      parameters := [{ name := "node", type := { name := "Node", isReference := true } }] },
    { name := "Find", returnType := .plain "Widget" },
    { name := "Count", returnType := .plain "int" }]
  fields := [{ name := "size", type := .plain "int", owner := "Node" }]

theorem loaders_isTyped : loaders.IsTyped := by decide

/-- One function that needs a wrapper, declared twice. -/
def repeatedLoader : Inputs :=
  { loaders with functions := loaders.functions.take 1 ++ loaders.functions.take 1 }

/-- A run that is ready comes to its end. Its report has exactly one entry for each function and for
each field that is asked for, the bound ones in their order, and the generated source has a
registration for each of the bound ones and a wrapper for each of those that name one. -/
theorem emit_accounts (h : IsReady s library o d i) (told : List Notice) :
    ∃ s' r text, (emit s told library o d i).outcome = .ok (s', r) ∧
      r.Lists (i.functionEntries ++ i.fieldEntries o) ∧
      i.functionEntries.map Report.declarationOf = i.functions.map (·.signature) ∧
      (i.fieldEntries o).map Report.declarationOf =
        (if o.bindFields then i.fields else []).map (·.signature) ∧
      Glue.IsSource o (i.headers o.strippedHead) r.bound text ∧ d.Holds s'.tree text := by
  obtain ⟨s', r, hr⟩ := emit_total h told
  obtain ⟨text, ht, hd⟩ := emit_text h.packaged h.template hr
  exact ⟨s', r, text, hr, emit_lists hr, i.functionEntries_declaration,
    i.fieldEntries_declaration o, ht, hd⟩

/-- All four passes of the generation have something to do. -/
theorem emit_accounts_loaders :
    IsReady { tree := {} } (fun _ => .packaged) {} freshDestination loaders ∧ ∃ s' r text,
      (emit { tree := {} } [] (fun _ => .packaged) {} freshDestination loaders).outcome =
        .ok (s', r) ∧
      r.Lists (loaders.functionEntries ++ loaders.fieldEntries {}) ∧
      loaders.functionEntries.map Report.declarationOf = loaders.functions.map (·.signature) ∧
      (loaders.fieldEntries {}).map Report.declarationOf = loaders.fields.map (·.signature) ∧
      Glue.IsSource {} (loaders.headers "") r.bound text ∧ freshDestination.Holds s'.tree text :=
  ⟨isReady_of_isTyped loaders_isTyped, emit_accounts (isReady_of_isTyped loaders_isTyped) []⟩

/-- The wrappers of the report are those that are generated for functions, since fields have
none. -/
theorem wrappers_of_lists (h : r.Lists (i.functionEntries ++ i.fieldEntries o)) :
    r.bound.filterMap (·.wrapper?) = i.wrapperNames := by
  have hfunctions : (i.selected.map (·.entry)).filterMap (·.wrapper?) = i.wrapperNames := by
    rw [Inputs.wrapperNames, List.filterMap_map, ← List.filterMap_eq_map, List.filterMap_filter]
    refine List.filterMap_congr fun w _ => ?_
    rfl
  have hfields : ((i.boundFields o).map (·.entry)).filterMap (·.wrapper?) = [] := by
    rw [List.filterMap_eq_nil_iff]
    intro e he
    obtain ⟨b, hb, rfl⟩ := List.mem_map.1 he
    exact Inputs.wrapper?_of_mem_boundFields hb
  rw [h.bound, List.filterMap_append, Inputs.filterMap_getLeft?_functionEntries,
    Inputs.filterMap_getLeft?_fieldEntries, List.filterMap_append, hfunctions, hfields,
    List.append_nil]

/-- The wrappers that the generated source defines have distinct names exactly if, wherever two
functions would get wrappers of one name, not all the functions that would get it have the same
signature. -/
theorem emit_wrappers_nodup (hl : ∀ t, library t = .packaged)
    (ho : o.bindingsTemplate = Template.bindingsName)
    (h : (emit s told library o d i).outcome = .ok (s', r)) :
    (∃ text, Glue.IsSource o (i.headers o.strippedHead) r.bound text ∧ d.Holds s'.tree text) ∧
      ((r.bound.filterMap (·.wrapper?)).Nodup ↔ i.functions.Pairwise fun f g =>
        f.isWrapped i.catalog = true → g.isWrapped i.catalog = true →
          f.wrapperName = g.wrapperName → i.IsContested f.wrapperName) := by
  refine ⟨emit_text hl ho h, ?_⟩
  rw [wrappers_of_lists (emit_lists h)]
  exact i.nodup_wrapperNames

theorem emit_wrappers_nodup_loaders : ∃ s' r,
    (emit { tree := {} } [] (fun _ => .packaged) {} freshDestination loaders).outcome =
      .ok (s', r) ∧
    (∃ text, Glue.IsSource {} (loaders.headers "") r.bound text ∧
      freshDestination.Holds s'.tree text) ∧
    ((r.bound.filterMap (·.wrapper?)).Nodup ↔ loaders.functions.Pairwise fun f g =>
      f.isWrapped loaders.catalog = true → g.isWrapped loaders.catalog = true →
        f.wrapperName = g.wrapperName → loaders.IsContested f.wrapperName) := by
  obtain ⟨s', r, h⟩ := emit_total (isReady_of_isTyped loaders_isTyped) []
  exact ⟨s', r, h, emit_wrappers_nodup (fun _ => rfl) rfl h⟩

/-- A function that is declared twice and needs a wrapper is defined twice. -/
theorem emit_repeatedLoader : ∃ s' r text,
    (emit { tree := {} } [] (fun _ => .packaged) {} freshDestination repeatedLoader).outcome =
      .ok (s', r) ∧
    Glue.IsSource {} (repeatedLoader.headers "") r.bound text ∧
    freshDestination.Holds s'.tree text ∧
    r.bound.filterMap (·.wrapper?) = ["Load_Node", "Load_Node"] ∧
    ¬(r.bound.filterMap (·.wrapper?)).Nodup := by
  have hi : repeatedLoader.IsTyped := by decide
  obtain ⟨s', r, h⟩ := emit_total (isReady_of_isTyped hi) []
  obtain ⟨text, ht, hd⟩ := emit_text (fun _ => rfl) rfl h
  have hnames : r.bound.filterMap (·.wrapper?) = ["Load_Node", "Load_Node"] := by
    rw [wrappers_of_lists (emit_lists h)]
    decide
  refine ⟨s', r, text, h, ht, hd, hnames, ?_⟩
  rw [hnames]
  decide

theorem loaders_isSuperseded : ∃ f, loaders.functions[1]? = some f ∧
    f.signature = "SharedPtr<Image> Load(Node&)" ∧ f.wrapperName = "Load_Node" ∧
    loaders.IsSuperseded 1 f := by
  refine ⟨_, rfl, by decide, by decide, by decide, ?_, ?_⟩
  · intro h
    have hl := congrArg List.length h
    revert hl
    decide
  · exact (Inputs.differ_rivals _ _).1 (by decide)

end CommandLine

end ScriptGlue

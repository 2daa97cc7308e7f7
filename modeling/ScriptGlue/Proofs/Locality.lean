import ScriptGlue.Proofs.Emission
import ScriptGlue.Proofs.Exposure
import ScriptGlue.Proofs.Lookup

namespace ScriptGlue

namespace Catalog

variable {c c' : Catalog} {names : List String} {name : String} {t : CppType}

theorem isKnown_congr (h : c.AgreesOn c' names) (hn : name ∈ names) :
    c'.isKnown name = c.isKnown name := by
  have hclass : c'.classes.contains (.text name) = c.classes.contains (.text name) :=
    congrArg Option.isSome (h.class?_eq name hn)
  have henum : c'.enums.contains (.text name) = c.enums.contains (.text name) :=
    congrArg Option.isSome (h.enum?_eq name hn)
  rw [isKnown, isKnown, hclass, henum, h.conventions]

theorem resolve_congr (h : c.AgreesOn c' names) (hn : name ∈ names) :
    c'.resolve name = c.resolve name := by
  rw [resolve, resolve, isKnown_congr h hn, h.class?_eq name hn, h.isAlias_eq name hn,
    h.conventions]

theorem isUndecided_congr (h : c.AgreesOn c' names) (hn : name ∈ names) :
    c'.isUndecided name = c.isUndecided name := by
  rw [isUndecided, isUndecided, h.class?_eq name hn]

theorem supportsHandles_congr (h : c.AgreesOn c' names) (hn : name ∈ names) :
    c'.supportsHandles name = c.supportsHandles name := by
  rw [supportsHandles, supportsHandles, h.class?_eq name hn, h.conventions]

theorem requireBindable_congr (h : c.AgreesOn c' names) (hn : t.name ∈ names) :
    c'.requireBindable t = c.requireBindable t := by
  rw [requireBindable, requireBindable, resolve_congr h hn]

theorem referenceOrHandle_congr (h : c.AgreesOn c' names) (hn : t.name ∈ names) :
    c'.referenceOrHandle t = c.referenceOrHandle t := by
  rw [referenceOrHandle, referenceOrHandle, supportsHandles_congr h hn, h.conventions]

theorem generalDeclaration_congr (h : c.AgreesOn c' names) (hn : t.name ∈ names) (usage : Usage)
    (default : Attribute) :
    c'.generalDeclaration t usage default = c.generalDeclaration t usage default := by
  rw [generalDeclaration, generalDeclaration, h.conventions, requireBindable_congr h hn,
    referenceOrHandle_congr h hn]

theorem convert_congr (h : c.AgreesOn c' names) (hn : t.name ∈ names) (name : String)
    (usage : Usage) (default : Attribute) :
    c'.convert t name usage default = c.convert t name usage default := by
  rw [convert, convert, shapeRule_congr h.conventions, generalDeclaration_congr h hn]

theorem scriptDeclaration_congr (h : c.AgreesOn c' names) (hn : t.name ∈ names) (usage : Usage) :
    c'.scriptDeclaration t usage = c.scriptDeclaration t usage := by
  rw [scriptDeclaration, scriptDeclaration, generalDeclaration_congr h hn]

theorem isGenerallyUndecided_congr (h : c.AgreesOn c' names) (hn : t.name ∈ names)
    (usage : Usage) : c'.isGenerallyUndecided t usage = c.isGenerallyUndecided t usage := by
  rw [isGenerallyUndecided, isGenerallyUndecided, isUndecided_congr h hn, h.conventions]

theorem isStuck_congr (h : c.AgreesOn c' names) (hn : t.name ∈ names) (name : String)
    (usage : Usage) (default : Attribute) :
    c'.isStuck t name usage default = c.isStuck t name usage default := by
  rw [isStuck, isStuck, shapeRule_congr h.conventions, isGenerallyUndecided_congr h hn]

theorem fits_congr (h : c'.conventions = c.conventions) (t : CppType) (name : Attribute)
    (usage : Usage) (default : Attribute) :
    c'.fits t name usage default = c.fits t name usage default := by
  rw [fits, fits, shapeRule_congr h]

end Catalog

theorem all_congr {α : Type} {p q : α → Bool} {xs : List α} (h : ∀ x ∈ xs, p x = q x) :
    xs.all p = xs.all q := by
  rw [Bool.eq_iff_iff, List.all_eq_true, List.all_eq_true]
  exact forall₂_congr fun x hx => by rw [h x hx]

theorem takeWhile_congr {α : Type} {p q : α → Bool} {xs : List α} (h : ∀ x ∈ xs, p x = q x) :
    xs.takeWhile p = xs.takeWhile q := by
  induction xs with
  | nil => rfl
  | cons x xs ih =>
    obtain ⟨hx, hxs⟩ := List.forall_mem_cons.1 h
    rw [List.takeWhile_cons, List.takeWhile_cons, hx, ih hxs]

def FunctionDecl.typeNames (f : FunctionDecl) : List String :=
  f.returnType.name :: f.parameters.map (·.type.name)

namespace Wrapper

variable {c c' : Catalog} {f : FunctionDecl}

theorem build_congr (h : c.AgreesOn c' f.typeNames) : build c' f = build c f := by
  have hparameters :
      f.parameters.mapM (fun p => c'.convert p.type p.name.shown .parameter p.default) =
        f.parameters.mapM fun p => c.convert p.type p.name.shown .parameter p.default :=
    Outcome.mapM_congr fun p hp => Catalog.convert_congr h
      (List.mem_cons_of_mem _ (List.mem_map_of_mem hp)) p.name.shown .parameter p.default
  rw [build, build, hparameters, Catalog.convert_congr h List.mem_cons_self, h.conventions]

theorem meetsMisfit_congr {ps : List Parameter} (h : c.AgreesOn c' (ps.map (·.type.name))) :
    meetsMisfit c' ps = meetsMisfit c ps := by
  induction ps with
  | nil => rfl
  | cons p ps ih =>
    have hp : p.type.name ∈ (p :: ps).map (·.type.name) := List.mem_cons_self
    rw [meetsMisfit, meetsMisfit, Catalog.isStuck_congr h hp, Catalog.convert_congr h hp,
      Catalog.fits_congr h.conventions, ih (h.mono (List.subset_cons_self _ _))]

theorem isMisfit_congr (h : c.AgreesOn c' f.typeNames) : isMisfit c' f = isMisfit c f := by
  have hall :
      f.parameters.all (fun p => (c'.convert p.type p.name.shown .parameter p.default).isOk) =
        f.parameters.all fun p => (c.convert p.type p.name.shown .parameter p.default).isOk :=
    all_congr fun p hp => by
      rw [Catalog.convert_congr h (List.mem_cons_of_mem _ (List.mem_map_of_mem hp))]
  rw [isMisfit, isMisfit, meetsMisfit_congr (h.mono (List.subset_cons_self _ _)), hall,
    Catalog.isStuck_congr h List.mem_cons_self, Catalog.convert_congr h List.mem_cons_self]

end Wrapper

namespace FieldDecl

variable {c c' : Catalog} {names : List String} {f : FieldDecl}

theorem bind_congr (h : c.AgreesOn c' names) (hn : f.type.name ∈ names) (o : GlueOptions) :
    f.bind c' o = f.bind c o := by
  rw [bind, bind, Catalog.scriptDeclaration_congr h hn, h.conventions]

theorem isMisfit_congr (h : c.AgreesOn c' names) (hn : f.type.name ∈ names) :
    f.isMisfit c' = f.isMisfit c := by
  rw [isMisfit, isMisfit, Catalog.isDeclarationStuck, Catalog.isDeclarationStuck,
    Catalog.isGenerallyUndecided_congr h hn, Catalog.scriptDeclaration_congr h hn]

end FieldDecl

namespace Inputs

/-- The names of the types in the declarations. -/
def typeNames (i : Inputs) : List String :=
  i.functions.flatMap (·.typeNames) ++ i.fields.map (·.type.name)

variable {i i' : Inputs} {c : Catalog} {o : GlueOptions}

theorem typeNames_subset (hf : i'.functions ⊆ i.functions) (hx : i'.fields ⊆ i.fields) :
    i'.typeNames ⊆ i.typeNames := by
  refine List.append_subset.2 ⟨List.subset_append_of_subset_left _ ?_, ?_⟩
  · intro n hn
    obtain ⟨f, hm, hn⟩ := List.mem_flatMap.1 hn
    exact List.mem_flatMap.2 ⟨f, hf hm, hn⟩
  · exact List.subset_append_of_subset_right _ (List.map_subset _ hx)

theorem agreesOn_function {f : FunctionDecl} (h : i.catalog.AgreesOn c i.typeNames)
    (hf : f ∈ i.functions) : i.catalog.AgreesOn c f.typeNames :=
  h.mono fun _ hn => List.mem_append_left _ (List.mem_flatMap.2 ⟨f, hf, hn⟩)

theorem mem_typeNames_of_field {f : FieldDecl} (hf : f ∈ i.fields) : f.type.name ∈ i.typeNames :=
  List.mem_append_right _ (List.mem_map_of_mem hf)

theorem attempts_congr (h : i.catalog.AgreesOn c i.typeNames) :
    { i with catalog := c }.attempts = i.attempts :=
  List.map_congr_left fun f hf => by rw [Wrapper.build_congr (agreesOn_function h hf)]

theorem rejected_congr (h : i.catalog.AgreesOn c i.typeNames) :
    { i with catalog := c }.rejected = i.rejected := by
  rw [rejected, rejected, attempts_congr h]

theorem clashes_congr (h : i.catalog.AgreesOn c i.typeNames) :
    { i with catalog := c }.clashes = i.clashes := by
  simp only [clashes, converted, attempts_congr h]

theorem selected_congr (h : i.catalog.AgreesOn c i.typeNames) :
    { i with catalog := c }.selected = i.selected := by
  simp only [selected, clashes_congr h, converted, attempts_congr h]

theorem fieldAttempts_congr (h : i.catalog.AgreesOn c i.typeNames) (o : GlueOptions) :
    { i with catalog := c }.fieldAttempts o = i.fieldAttempts o := by
  have hbind : i.fields.map (fun f => (f, f.bind c o)) =
      i.fields.map fun f => (f, f.bind i.catalog o) :=
    List.map_congr_left fun f hf => by rw [FieldDecl.bind_congr h (mem_typeNames_of_field hf)]
  rw [fieldAttempts, fieldAttempts, hbind]

theorem refusedFields_congr (h : i.catalog.AgreesOn c i.typeNames) (o : GlueOptions) :
    { i with catalog := c }.refusedFields o = i.refusedFields o := by
  rw [refusedFields, refusedFields, fieldAttempts_congr h]

theorem boundFields_congr (h : i.catalog.AgreesOn c i.typeNames) (o : GlueOptions) :
    { i with catalog := c }.boundFields o = i.boundFields o := by
  rw [boundFields, boundFields, fieldAttempts_congr h]

theorem functionNotices_congr (h : i.catalog.AgreesOn c i.typeNames) :
    { i with catalog := c }.functionNotices = i.functionNotices := by
  rw [functionNotices, functionNotices, rejected_congr h, clashes_congr h]

theorem fieldNotices_congr (h : i.catalog.AgreesOn c i.typeNames) (o : GlueOptions) :
    { i with catalog := c }.fieldNotices o = i.fieldNotices o := by
  rw [fieldNotices, fieldNotices, refusedFields_congr h]

theorem skips_congr (h : i.catalog.AgreesOn c i.typeNames) (o : GlueOptions) :
    { i with catalog := c }.skips o = i.skips o := by
  rw [skips, skips, rejected_congr h, clashes_congr h, refusedFields_congr h]

theorem checkFunctions_congr (h : i.catalog.AgreesOn c i.typeNames) :
    { i with catalog := c }.checkFunctions = i.checkFunctions := by
  have hfits : ∀ f ∈ i.functions, (!Wrapper.isMisfit c f) = !Wrapper.isMisfit i.catalog f :=
    fun f hf => by rw [Wrapper.isMisfit_congr (agreesOn_function h hf)]
  -- the functions that are told of are attempted again, without those that follow
  let before : Inputs :=
    { i with functions := i.functions.takeWhile fun f => !Wrapper.isMisfit i.catalog f }
  have hbefore : before.typeNames ⊆ i.typeNames :=
    typeNames_subset (List.takeWhile_subset _) fun _ hf => hf
  have hrejected : { before with catalog := c }.rejected = before.rejected :=
    rejected_congr (i := before) (h.mono hbefore)
  simp only [checkFunctions, all_congr hfits, takeWhile_congr hfits]
  rw [hrejected]

theorem checkFields_congr (h : i.catalog.AgreesOn c i.typeNames) (o : GlueOptions) :
    { i with catalog := c }.checkFields o = i.checkFields o := by
  have hfits : ∀ f ∈ i.fields, (!f.isMisfit c) = !f.isMisfit i.catalog :=
    fun f hf => by rw [FieldDecl.isMisfit_congr h (mem_typeNames_of_field hf)]
  let before : Inputs := { i with fields := i.fields.takeWhile fun f => !f.isMisfit i.catalog }
  have hbefore : before.typeNames ⊆ i.typeNames :=
    typeNames_subset (fun _ hf => hf) (List.takeWhile_subset _)
  have hnotices : { before with catalog := c }.fieldNotices o = before.fieldNotices o :=
    fieldNotices_congr (i := before) (h.mono hbefore) o
  simp only [checkFields, all_congr hfits, takeWhile_congr hfits]
  rw [hnotices]

end Inputs

theorem Glue.generate_congr {i : Inputs} {c : Catalog} (h : i.catalog.AgreesOn c i.typeNames)
    (templates : List Notice → TemplateLibrary) (o : GlueOptions) :
    generate templates o { i with catalog := c } = generate templates o i := by
  simp only [generate, Inputs.checkFunctions_congr h, Inputs.functionNotices_congr h,
    Inputs.selected_congr h, Inputs.checkFields_congr h, Inputs.fieldNotices_congr h,
    Inputs.boundFields_congr h, Inputs.skips_congr h]
  rfl

namespace CommandLine

/-- Runs on the same declarations do the same, tell the same and report the same, whatever else
their catalogs record, as long as these have the same conventions and agree on the names of the
types in the declarations. So nothing that stands under another name can be put in, left out or
changed to any effect. -/
theorem emit_local (s : LoggedTree) (told : List Notice) (library : FileTree → TemplateLibrary)
    (o : GlueOptions) (d : Destination) (i : Inputs) :
    (∀ c, i.catalog.AgreesOn c i.typeNames →
      (∀ templates,
        Glue.generate templates o { i with catalog := c } = Glue.generate templates o i) ∧
      emit s told library o d { i with catalog := c } = emit s told library o d i) ∧
    ∀ (conventions : Conventions) (e e' : CatalogEntries),
      e.under i.typeNames = e'.under i.typeNames →
      emit s told library o d { i with catalog := e.build conventions } =
        emit s told library o d { i with catalog := e'.build conventions } := by
  have hlocal (i : Inputs) (c : Catalog) (h : i.catalog.AgreesOn c i.typeNames) :
      emit s told library o d { i with catalog := c } = emit s told library o d i := by
    simp only [emit, Glue.generate_congr h]
  refine ⟨fun c h => ⟨fun templates => Glue.generate_congr h templates o, hlocal i c h⟩, ?_⟩
  intro conventions e e' h
  exact hlocal { i with catalog := e'.build conventions } (e.build conventions)
    (CatalogEntries.agreesOn_build h.symm conventions)

def loaderEntries : CatalogEntries where
  classes := [{ name := "Node", isRefCounted := true }, { name := "Image", isRefCounted := true }]

/-- Of these only one is left as it was, and none of the others is for the type of a declaration,
although one is for the class whose handles are returned. -/
def crowd : CatalogEntries where
  classes := [{ name := "Scene" }, { name := "Node", isRefCounted := true },
    { name := "Image", isInternal := true }]
  enums := [{ name := "Mode", values := ["On", "Off"] }]
  aliases := [{ name := "Nodes", target := "PODVector<Node*>" }]

theorem loaderEntries_under : loaderEntries.under loaders.typeNames =
    crowd.under loaders.typeNames := by
  rfl

theorem emit_local_loaders :
    loaders.catalog.AgreesOn (crowd.build {}) loaders.typeNames ∧
      emit { tree := {} } [] (fun _ => .packaged) {} freshDestination
          { loaders with catalog := crowd.build {} } =
        emit { tree := {} } [] (fun _ => .packaged) {} freshDestination loaders ∧
      loaderEntries.under loaders.typeNames = crowd.under loaders.typeNames ∧
      emit { tree := {} } [] (fun _ => .packaged) {} freshDestination
          { loaders with catalog := loaderEntries.build {} } =
        emit { tree := {} } [] (fun _ => .packaged) {} freshDestination
          { loaders with catalog := crowd.build {} } := by
  obtain ⟨hcatalogs, hentries⟩ :=
    emit_local { tree := {} } [] (fun _ => .packaged) {} freshDestination loaders
  have hloaders : loaders.catalog.AgreesOn (crowd.build {}) loaders.typeNames :=
    CatalogEntries.agreesOn_build loaderEntries_under {}
  exact ⟨hloaders, (hcatalogs _ hloaders).2, loaderEntries_under,
    hentries {} _ _ loaderEntries_under⟩

end CommandLine

end ScriptGlue

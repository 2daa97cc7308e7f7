import ScriptGlue.Proofs.Emission
import ScriptGlue.Proofs.FileChanges

namespace ScriptGlue

namespace LoggedTree

open FileTree

variable {s s' : LoggedTree} {told : List Notice} {dryRun : Bool} {p : Path} {content : String}
  {f : Fault}

theorem tree_of_deliver (hs : s.log? = none)
    (h : (s.deliver told dryRun p content).outcome = .ok s') :
    s'.log? = none ∧ (s.tree.deliver dryRun p content).outcome = .ok s'.tree := by
  obtain ⟨t', ht, rfl⟩ := deliver_eq_ok.1 h
  rw [view_of_log?_eq_none hs] at ht
  refine ⟨?_, ht⟩
  rw [moved, hs]
  rfl

theorem deliver_dryRun (hs : s.log? = none)
    (h : (s.deliver told true p content).outcome = .ok s') :
    s'.log? = none ∧ s'.tree = s.tree :=
  ⟨(tree_of_deliver hs h).1, (FileTree.deliver_dryRun.1 (tree_of_deliver hs h).2).symm⟩

theorem deliver_changesOnly (hs : s.log? = none)
    (h : (s.deliver told false p content).outcome = .ok s') :
    s'.log? = none ∧ s'.tree.HasText p content ∧ ChangesOnly [p.location] s.tree s'.tree := by
  obtain ⟨hlog, ht⟩ := tree_of_deliver hs h
  obtain ⟨changed, hw⟩ := FileTree.deliver_eq_ok.1 ht
  exact ⟨hlog, read_deliver h, (changesOnly_write hw).1⟩

theorem attempted_changesOnly (hs : s.log? = none)
    (h : (s.deliver told dryRun p content).outcome = .error f) :
    dryRun = false ∧ (s.attempted told dryRun p content).log? = none ∧
      ChangesOnly [] s.tree (s.attempted told dryRun p content).tree := by
  cases dryRun with
  | true => cases h
  | false =>
    have hview := view_of_log?_eq_none hs told
    refine ⟨rfl, ?_, ?_⟩
    · rw [attempted, if_neg Bool.false_ne_true, moved, hs]
      rfl
    · rw [attempted, if_neg Bool.false_ne_true, moved, hview]
      rcases hw : s.tree.write p content with ⟨t', f' | changed⟩
      · exact (changesOnly_write hw).2 rfl
      · have ht := FileTree.deliver_eq_ok.2 ⟨changed, hw⟩
        rw [← hview] at ht
        rw [deliver_eq_ok.2 ⟨t', ht, rfl⟩] at h
        cases h

end LoggedTree

/-- The source and the manifest are two files. -/
def Destination.IsSeparate (d : Destination) : Prop :=
  d.sourcePath.location ≠ d.manifestPath.location

instance (d : Destination) : Decidable d.IsSeparate := inferInstanceAs (Decidable (_ ≠ _))

namespace CommandLine

open FileTree

variable {w : World} {arguments : List String} {o : Options} {s s' : LoggedTree}
  {l : FileTree → TemplateLibrary} {i : Inputs} {g : Glue} {before : List TraceItem}

theorem dryRun_destination (w : World) (o : Options) : (destination w o).dryRun = o.dryRun := rfl

/-- What a run with the options has to work on, and what it generates from that. -/
def Generates (w : World) (o : Options) (i : Inputs) (g : Glue) : Prop :=
  ∃ l, (library w.engine w.tree (destination w o)).outcome = .ok l ∧
    (gather w w.tree o).outcome = .ok (some i) ∧
    (Glue.generate (fun _ => l w.tree) (glueOptions o) i).outcome = .ok g

/-- The exit code tells which files the session may have changed, and what those have: none if it
has failed before its end or was dry, else the source, and after success the manifest as well. -/
def Session.TellsChanges (w : World) (arguments : List String) (o : Options) (s : Session) : Prop :=
  let d := destination w o
  match s.exitCode with
  | 0 =>
    if o.dryRun then ChangesOnly [] w.tree s.tree
    else ∃ i g, Generates w o i g ∧ s.tree.HasText d.sourcePath g.text ∧
      if o.noManifest then ChangesOnly [d.sourcePath.location] w.tree s.tree
      else s.tree.HasText d.manifestPath (manifest w arguments d i g.report).text ∧
        ChangesOnly [d.sourcePath.location, d.manifestPath.location] w.tree s.tree
  | 1 | 2 | 3 | 4 => ChangesOnly [] w.tree s.tree
  | 5 => ∃ i g, Generates w o i g ∧ s.tree.HasText d.sourcePath g.text ∧
    ChangesOnly [d.sourcePath.location] w.tree s.tree
  | _ => False

/-- The tree that an emission leaves: the one it found, or one that has the generated source. -/
def IsEmitted (w : World) (o : Options) (g : Glue) (t : FileTree) : Prop :=
  if o.dryRun then t = w.tree
  else t.HasText (destination w o).sourcePath g.text ∧
    ChangesOnly [(destination w o).sourcePath.location] w.tree t

section Finish

variable {last : List Notice} {fault? : Option Fault}

theorem finish_withoutManifest (hs : s.log? = none) (hg : Generates w o i g)
    (ht : IsEmitted w o g s.tree) (hn : o.noManifest = true) :
    (finish s before last 0 fault?).TellsChanges w arguments o := by
  rw [IsEmitted] at ht
  simp only [Session.TellsChanges, finish, LoggedTree.view_of_log?_eq_none hs, hn]
  split at ht
  · rename_i hdry
    rw [if_pos hdry, ht]
    exact .refl [] w.tree
  · rename_i hdry
    rw [if_neg hdry]
    exact ⟨i, g, hg, ht.1, ht.2⟩

theorem finish_failedManifest (hs' : s'.log? = none) (hg : Generates w o i g)
    (ht : IsEmitted w o g s.tree) (hdry : o.dryRun = false) (hc : ChangesOnly [] s.tree s'.tree) :
    (finish s' before last 5 fault?).TellsChanges w arguments o := by
  rw [IsEmitted, hdry, if_neg Bool.false_ne_true] at ht
  simp only [Session.TellsChanges, finish, LoggedTree.view_of_log?_eq_none hs']
  have hsource := ht.1.of_changesOnly hc List.not_mem_nil
  exact ⟨i, g, hg, hsource, ht.2.trans (hc.weaken (List.nil_subset _))⟩

theorem finish_dryRun (hs' : s'.log? = none) (ht : s'.tree = w.tree) (hdry : o.dryRun = true) :
    (finish s' before last 0 fault?).TellsChanges w arguments o := by
  simp only [Session.TellsChanges, finish, LoggedTree.view_of_log?_eq_none hs', hdry, ht]
  exact .refl [] w.tree

theorem finish_withManifest (hs' : s'.log? = none) (hg : Generates w o i g)
    (ht : IsEmitted w o g s.tree) (hd : (destination w o).IsSeparate) (hdry : o.dryRun = false)
    (hn : o.noManifest = false)
    (htext : s'.tree.HasText (destination w o).manifestPath
      (manifest w arguments (destination w o) i g.report).text)
    (hc : ChangesOnly [(destination w o).manifestPath.location] s.tree s'.tree) :
    (finish s' before last 0 fault?).TellsChanges w arguments o := by
  rw [IsEmitted, hdry, if_neg Bool.false_ne_true] at ht
  simp only [Session.TellsChanges, finish, LoggedTree.view_of_log?_eq_none hs', hdry, hn]
  have hsource := ht.1.of_changesOnly hc (mt List.mem_singleton.1 hd)
  refine ⟨i, g, hg, hsource, htext, ?_⟩
  exact (ht.2.weaken (by simp)).trans (hc.weaken (by simp))

end Finish

theorem outcome_emitManifest (s : LoggedTree) (told : List Notice) (d : Destination)
    (m : Manifest) : (emitManifest s told d m).outcome =
      (s.deliver told d.dryRun d.manifestPath m.text).outcome := by
  rw [emitManifest, Run.outcome_bind]
  cases (s.deliver told d.dryRun d.manifestPath m.text).outcome <;> rfl

theorem runManifest_tellsChanges (hs : s.log? = none) (hg : Generates w o i g)
    (ht : IsEmitted w o g s.tree) (hd : (destination w o).IsSeparate) :
    (runManifest w arguments o (destination w o) i s g.report before).TellsChanges w arguments
      o := by
  rw [runManifest]
  dsimp only
  cases hn : o.noManifest with
  | true =>
    rw [if_pos rfl, Run.outcome_pure]
    exact finish_withoutManifest hs hg ht hn
  | false =>
    rw [if_neg Bool.false_ne_true, outcome_emitManifest, dryRun_destination]
    cases hdry : o.dryRun with
    | true =>
      split
      · rename_i f hf
        exact absurd (LoggedTree.attempted_changesOnly hs hf).1 (Bool.noConfusion ·)
      · rename_i s' hs'
        obtain ⟨hlog, htree⟩ := LoggedTree.deliver_dryRun hs hs'
        rw [IsEmitted, hdry, if_pos rfl] at ht
        exact finish_dryRun hlog (htree.trans ht) hdry
    | false =>
      split
      · rename_i f hf
        obtain ⟨-, hlog, hc⟩ := LoggedTree.attempted_changesOnly hs hf
        exact finish_failedManifest hlog hg ht hdry hc
      · rename_i s' hs'
        obtain ⟨hlog, htext, hc⟩ := LoggedTree.deliver_changesOnly hs hs'
        exact finish_withManifest hlog hg ht hd hdry hn htext hc

theorem leftByEmission_changesOnly {told : List Notice} {options : GlueOptions} {d : Destination}
    {f : Fault} (hs : s.log? = none) (h : (emit s told l options d i).outcome = .error f) :
    (leftByEmission s told l options d i).log? = none ∧
      ChangesOnly [] s.tree (leftByEmission s told l options d i).tree := by
  rw [leftByEmission]
  split
  · rename_i g hg
    -- The source was generated, so it is the write that has failed.
    rcases hdelivered : (s.deliver (told ++ (Glue.generate (fun more => l (s.view (told ++ more)))
      options i).notices) d.dryRun d.sourcePath g.text).outcome with f' | s'
    · exact (LoggedTree.attempted_changesOnly hs hdelivered).2
    · rw [emit_eq_ok.2 ⟨g, hg, hdelivered, rfl⟩] at h
      cases h
  · exact ⟨hs, .refl [] s.tree⟩

theorem emit_isEmitted {told : List Notice} {r : Report} (hs : s.log? = none)
    (ht : s.tree = w.tree)
    (h : (emit s told l (glueOptions o) (destination w o) i).outcome = .ok (s', r)) :
    ∃ g, (Glue.generate (fun _ => l w.tree) (glueOptions o) i).outcome = .ok g ∧ g.report = r ∧
      s'.log? = none ∧ IsEmitted w o g s'.tree := by
  have hview : ∀ told, s.view told = w.tree := fun told =>
    ht ▸ LoggedTree.view_of_log?_eq_none hs told
  obtain ⟨g, hg, hs', hr⟩ := emit_eq_ok.1 h
  simp only [hview] at hg
  refine ⟨g, hg, hr, (LoggedTree.tree_of_deliver hs hs').1, ?_⟩
  rw [IsEmitted, ← ht]
  split
  · rename_i hdry
    rw [dryRun_destination, hdry] at hs'
    exact (LoggedTree.deliver_dryRun hs hs').2
  · rename_i hdry
    rw [dryRun_destination, Bool.eq_false_iff.2 hdry] at hs'
    exact (LoggedTree.deliver_changesOnly hs hs').2

theorem runEmission_tellsChanges (hs : s.log? = none) (ht : s.tree = w.tree)
    (hl : (library w.engine w.tree (destination w o)).outcome = .ok l)
    (hi : (gather w w.tree o).outcome = .ok (some i)) (hd : (destination w o).IsSeparate) :
    (runEmission w arguments o s l i before).TellsChanges w arguments o := by
  rw [runEmission]
  dsimp only
  split
  · rename_i f hf
    obtain ⟨hlog, hc⟩ := leftByEmission_changesOnly hs hf
    simp only [Session.TellsChanges, finish, LoggedTree.view_of_log?_eq_none hlog]
    exact ht ▸ hc
  · rename_i s' r hr
    obtain ⟨g, hg, rfl, hlog, hemitted⟩ := emit_isEmitted hs ht hr
    exact runManifest_tellsChanges hlog ⟨l, hl, hi, hg⟩ hemitted hd

theorem runOptions_tellsChanges (hd : (destination w o).IsSeparate) :
    (runOptions w arguments o { tree := w.tree }).TellsChanges w arguments o := by
  rw [runOptions]
  dsimp only
  split
  · exact .refl [] w.tree
  · rename_i l hl
    split
    · exact .refl [] w.tree
    · rw [LoggedTree.view_of_log?_eq_none rfl]
      split
      · exact .refl [] w.tree
      · exact .refl [] w.tree
      · rename_i i hi
        exact runEmission_tellsChanges rfl rfl hl hi hd

/-- A catalog that has nothing, among other files. -/
def bareWorld (files : List (Location × Item)) (e : TemplateEngine) : World where
  tree := ⟨(["c.json"], .file "\x7b\x7d") :: files⟩
  here := ⟨1, []⟩
  engine := e

def bareOptions (templates : String) : Options where
  catalogFile := "c.json"
  templatesDirectory := templates
  noManifest := true

def bareArguments (templates : String) : List String :=
  ["--catalog-json", "c.json", "--templates-dir", templates, "--no-manifest"]

section Bare

variable {files : List (Location × Item)} {e : TemplateEngine} {templates text : String}

theorem gather_bare : ∃ i, (gather (bareWorld files e) (bareWorld files e).tree
    (bareOptions templates)).outcome = .ok (some i) ∧ i.IsTyped ∧ i.functions = [] := by
  have hn : Path.hasNullCharacter ⟨1, ["c.json"]⟩ = false := by simp [Path.hasNullCharacter]
  have hlocate : (bareWorld files e).tree.locate ⟨1, ["c.json"]⟩ = .ok ["c.json"] := by
    rw [locate, hn]
    rfl
  have htext : ((Inputs.ofText .standard (.ofString "c.json") "\x7b\x7d").outcome.toOption.any
      fun i => decide i.IsTyped && i.functions.isEmpty) = true := by
    decide +kernel
  obtain ⟨i, hi, hbare⟩ := (Option.any_eq_true ..).1 htext
  obtain ⟨htyped, hfunctions⟩ := Bool.and_eq_true_iff.1 hbare
  refine ⟨i, Run.bind_eq_ok.2 ⟨i, ?_, rfl⟩, of_decide_eq_true htyped,
    List.isEmpty_iff.1 hfunctions⟩
  refine Run.bind_eq_ok.2 ⟨"\x7b\x7d", Run.ofExcept_eq_ok.2 ?_, Outcome.toOption_eq_some.1 hi⟩
  have hpath : (⟨1, []⟩ : Path).join (.ofString "c.json") = ⟨1, ["c.json"]⟩ := by decide
  show (bareWorld files e).tree.read ((⟨1, []⟩ : Path).join (.ofString "c.json")) = _
  rw [hpath]
  exact read_eq hlocate rfl

theorem sourcePath_bare :
    (destination (bareWorld files e) (bareOptions templates)).sourcePath =
      ⟨1, ["generated", "GeneratedGlue.cpp"]⟩ := by
  have hpath : ((Path.ofString "generated").resolve ⟨1, []⟩).child "GeneratedGlue.cpp" =
      ⟨1, ["generated", "GeneratedGlue.cpp"]⟩ := by decide
  exact hpath

theorem isWritable_bare (hnone : (bareWorld files e).tree.item? ["generated"] = none)
    (hfree : (bareWorld files e).tree.isDirectory ["generated", "GeneratedGlue.cpp"] = false) :
    (bareWorld files e).tree.IsWritable
      (destination (bareWorld files e) (bareOptions templates)).sourcePath := by
  rw [sourcePath_bare]
  refine isWritable_of_item?_eq_none ?_ (by decide) (by decide) (by decide) (by decide)
    hnone hfree
  simp [Path.hasNullCharacter]

theorem exitCode_of_emit {r : Report} (hn : o.noManifest = true)
    (h : (emit s (noticesOf before) l (glueOptions o) (destination w o) i).outcome = .ok (s', r)) :
    (runEmission w arguments o s l i before).exitCode = 0 := by
  rw [runEmission]
  dsimp only
  rw [h]
  dsimp only
  rw [runManifest, hn]
  rfl

theorem exitCode_of_emit_error {f : Fault}
    (h : (emit s (noticesOf before) l (glueOptions o) (destination w o) i).outcome = .error f) :
    (runEmission w arguments o s l i before).exitCode = 4 := by
  rw [runEmission]
  dsimp only
  rw [h]
  rfl

theorem run_bare (files : List (Location × Item)) (e : TemplateEngine) (templates : String)
    {n : Nat}
    (hread : Request.ofArguments (bareArguments templates) = .run (bareOptions templates))
    (hnull : ("generated" ++ templates).contains '\x00' = false)
    (hl : (library e (bareWorld files e).tree
      (destination (bareWorld files e) (bareOptions templates))).outcome = .ok l)
    (hcode : ∀ i before, i.IsTyped → i.functions = [] →
      (runEmission (bareWorld files e) (bareArguments templates) (bareOptions templates)
        { tree := (bareWorld files e).tree } l i before).exitCode = n) :
    ∃ session log, run (bareWorld files e) (bareArguments templates) = .session session log ∧
      session.exitCode = n := by
  have hoptions : (runOptions (bareWorld files e) (bareArguments templates)
      (bareOptions templates) { tree := (bareWorld files e).tree }).exitCode = n := by
    obtain ⟨i, hi, htyped, hfunctions⟩ := @gather_bare files e templates
    rw [runOptions]
    dsimp only
    rw [show (bareWorld files e).engine = e from rfl, hl]
    dsimp only
    rw [LoggedTree.view_of_log?_eq_none rfl, hi]
    exact hcode i _ htyped hfunctions
  have hformat : Log.Format.isValid ({} : Options).logFormat = true := by decide +kernel
  refine ⟨_, terminalText (bareOptions templates) (runOptions (bareWorld files e)
    (bareArguments templates) (bareOptions templates)
    { tree := (bareWorld files e).tree }).notices, ?_, hoptions⟩
  rw [run, hread]
  dsimp only
  rw [show Log.Format.isValid (bareOptions templates).logFormat = true from hformat,
    show ((bareOptions templates).outputDirectory ++
      (bareOptions templates).templatesDirectory).contains '\x00' = false from hnull]
  rfl

theorem isReady_bare (hi : i.IsTyped) : IsReady { tree := (bareWorld [] e).tree }
    (fun _ => .packaged) (glueOptions (bareOptions ""))
    (destination (bareWorld [] e) (bareOptions "")) i where
  typed := hi
  head := rfl
  template := rfl
  packaged _ := rfl
  writable _ := isWritable_bare rfl rfl

def namespaceText : String := "\x7b\x7b namespace \x7d\x7d"

def missingText : String := "\x7b\x7b missing \x7d\x7d"

/-- An engine that shows the namespace of the source, and has no other value. -/
def namespaceEngine : TemplateEngine where
  render files path scope :=
    match scope.lookup "namespace" with
    | some v =>
      if files.lookup path = some namespaceText then .ok v.shown
      else .error "'missing' is undefined"
    | none => .error "'namespace' is undefined"

def sourceTemplate (text : String) : List (Location × Item) :=
  [(["t"], .directory), (["t", "bindings.cpp.j2"], .file text)]

def userLibrary (e : TemplateEngine) (later : FileTree) : TemplateLibrary where
  overrides := templateFiles later ["t"]
  engine := e

theorem library_sourceTemplate : (library e (bareWorld (sourceTemplate text) e).tree
    (destination (bareWorld (sourceTemplate text) e) (bareOptions "t"))).outcome =
      .ok (userLibrary e) := by
  have hpath : (Path.ofString "t").resolve ⟨1, []⟩ = ⟨1, ["t"]⟩ := by decide
  have hn : Path.hasNullCharacter ⟨1, ["t"]⟩ = false := by simp [Path.hasNullCharacter]
  have hlocate : (bareWorld (sourceTemplate text) e).tree.locate ⟨1, ["t"]⟩ = .ok ["t"] := by
    rw [locate, hn]
    rfl
  have hp : (destination (bareWorld (sourceTemplate text) e) (bareOptions "t")).templates? =
      some ⟨1, ["t"]⟩ := congrArg some hpath
  rw [library, hp]
  dsimp only
  rw [hlocate]
  rfl

theorem render_shown (o : GlueOptions) (headers : List Attribute) (bs : List Binding) :
    TemplateLibrary.render ⟨[(["bindings.cpp.j2"], namespaceText)], namespaceEngine⟩
      Template.bindingsName (Glue.scope o headers bs) = .ok o.namespaceName.shown := rfl

theorem render_missing (o : GlueOptions) (headers : List Attribute) (bs : List Binding) :
    TemplateLibrary.render ⟨[(["bindings.cpp.j2"], missingText)], namespaceEngine⟩
      Template.bindingsName (Glue.scope o headers bs) =
        .error (.template (.engine "'missing' is undefined")) := rfl

/-- The world in which the source has this template. -/
abbrev templateWorld (text : String) : World := bareWorld (sourceTemplate text) namespaceEngine

theorem emit_shown {told : List Notice} (hi : i.IsTyped) (hf : i.functions = []) : ∃ s' r,
    (emit { tree := (templateWorld namespaceText).tree } told (userLibrary namespaceEngine)
      (glueOptions (bareOptions "t"))
      (destination (templateWorld namespaceText) (bareOptions "t")) i).outcome = .ok (s', r) := by
  have hselected : i.selected = [] := by
    simp [Inputs.selected, Inputs.converted, Inputs.attempts, hf]
  obtain ⟨g, hg, -⟩ := Glue.generate_of_checks (o := glueOptions (bareOptions "t"))
    (t := fun _ => userLibrary namespaceEngine (templateWorld namespaceText).tree)
    (Inputs.checkFunctions_outcome hi) (Inputs.checkFields_outcome hi _)
    (Inputs.checkHeaders_outcome hi rfl) (by rw [hselected]; rfl) (render_shown ..)
  have hwritable : ∀ told, (LoggedTree.view
      { tree := (templateWorld namespaceText).tree } told).IsWritable
      (destination (templateWorld namespaceText) (bareOptions "t")).sourcePath :=
    fun _ => isWritable_bare rfl rfl
  obtain ⟨s', hs⟩ := LoggedTree.deliver_total (hwritable _)
  exact ⟨s', g.report, emit_eq_ok.2 ⟨g, hg, hs, rfl⟩⟩

theorem emit_missing {told : List Notice} : ∃ f,
    (emit { tree := (templateWorld missingText).tree } told (userLibrary namespaceEngine)
      (glueOptions (bareOptions "t"))
      (destination (templateWorld missingText) (bareOptions "t")) i).outcome = .error f := by
  generalize hemit : Run.outcome _ = outcome
  cases outcome with
  | error f => exact ⟨f, rfl⟩
  | ok emitted =>
    obtain ⟨g, hg, -⟩ := emit_eq_ok.1 hemit
    obtain ⟨functions, -, hs, -⟩ := Glue.generate_eq_ok hg
    cases (render_missing _ _ _).symm.trans hs

end Bare

end CommandLine

end ScriptGlue

import ScriptGlue.Proofs.Emission
import ScriptGlue.Proofs.Preprocessing

namespace ScriptGlue

open Preprocessor

/-- What is generated for one bound declaration. -/
structure GuardedCode where
  guard? : Option String := none
  wrapper? : Option String
  registration : String

namespace GuardedCode

def wrapperText? (k : GuardedCode) : Option String := k.wrapper?.map (Template.guarded k.guard?)

def registrationText (k : GuardedCode) : String :=
  Template.guarded k.guard? k.registration ++ "\n"

def source (o : GlueOptions) (headers : List Attribute) (ks : List GuardedCode) : String :=
  Glue.sourceText o headers (ks.filterMap (·.wrapperText?)) (ks.map (·.registrationText))

/-- What is left of the wrapper and of the registration under the macros. -/
def under (defined : String → Bool) (k : GuardedCode) : GuardedCode where
  wrapper? := k.wrapper?.map fun code => if Template.isCompiled defined k.guard? then code else ""
  registration := if Template.isCompiled defined k.guard? then k.registration else ""

def includeSegment (header : Attribute) : Segment where
  code := "#include \"" ++ header.shown ++ "\"" ++ "\n"

def wrapperSegments (k : GuardedCode) : List Segment :=
  match k.wrapper? with
  | some code => [{ guard? := k.guard?, code }, { code := "\n\n" }]
  | none => []

def registrationSegments (k : GuardedCode) : List Segment :=
  [{ guard? := k.guard?, code := k.registration }, { code := "\n" }]

def segments (o : GlueOptions) (headers : List Attribute) (ks : List GuardedCode) : List Segment :=
  { code := "// This file is generated by the AngelScript binding generator. Do not edit.\n\n" } ::
    ((o.includes ++ headers).map includeSegment ++
      { code := "\nnamespace " ++ o.namespaceName.shown ++ "\n\x7b\n\n" } ::
        (ks.flatMap wrapperSegments ++
          { code := "void " ++ o.registerFunction.shown ++ "(asIScriptEngine* engine)\n\x7b\n" } ::
            (ks.flatMap registrationSegments ++ [{ code := "\x7d\n\n" }])))

def lastLine (o : GlueOptions) : String := "\x7d // namespace " ++ o.namespaceName.shown

variable {defined : String → Bool} {o : GlueOptions} {headers : List Attribute}
  {k : GuardedCode} {ks : List GuardedCode}

theorem map_under_includeSegment (hs : List Attribute) :
    (hs.map includeSegment).map (·.under defined) = hs.map includeSegment := by
  rw [List.map_map]
  rfl

theorem wrapperSegments_under :
    (wrapperSegments k).map (·.under defined) = wrapperSegments (k.under defined) := by
  rw [wrapperSegments, wrapperSegments, under]
  cases k.wrapper? with
  | none => rfl
  | some code => rfl

theorem segments_under : (segments o headers ks).map (·.under defined) =
    segments o headers (ks.map (·.under defined)) := by
  have hwrappers : (ks.flatMap wrapperSegments).map (·.under defined) =
      (ks.map (·.under defined)).flatMap wrapperSegments := by
    rw [List.map_flatMap, List.flatMap_map]
    exact List.flatMap_congr fun k _ => wrapperSegments_under
  have hregistrations : (ks.flatMap registrationSegments).map (·.under defined) =
      (ks.map (·.under defined)).flatMap registrationSegments := by
    rw [List.map_flatMap, List.flatMap_map]
    rfl
  simp only [segments, List.map_cons, List.map_append, List.map_nil, hwrappers, hregistrations,
    map_under_includeSegment]
  rfl

theorem toList_wrapperTexts (ks : List GuardedCode) :
    ((ks.filterMap (·.wrapperText?)).map (· ++ "\n\n")).flatMap String.toList =
      (ks.flatMap wrapperSegments).flatMap (·.text.toList) := by
  induction ks with
  | nil => rfl
  | cons k ks ih =>
    rw [List.flatMap_cons, List.flatMap_append, ← ih, wrapperSegments, List.filterMap_cons,
      wrapperText?]
    cases k.wrapper? with
    | none => rfl
    | some code =>
      simp only [Option.map_some, List.map_cons, List.flatMap_cons, List.flatMap_nil,
        String.toList_append, List.append_assoc, Segment.text_unguarded]
      rfl

theorem toList_registrationTexts (ks : List GuardedCode) :
    (ks.map (·.registrationText)).flatMap String.toList =
      (ks.flatMap registrationSegments).flatMap (·.text.toList) := by
  rw [List.flatMap_map, List.flatMap_assoc]
  refine List.flatMap_congr fun k _ => ?_
  simp only [registrationText, registrationSegments, List.flatMap_cons, List.flatMap_nil,
    String.toList_append, List.append_nil, Segment.text_unguarded]
  rfl

theorem toList_includeTexts (hs : List Attribute) :
    (hs.map fun h => "#include \"" ++ h.shown ++ "\"\n").flatMap String.toList =
      (hs.map includeSegment).flatMap (·.text.toList) := by
  rw [List.flatMap_map, List.flatMap_map]
  have hend : "\"\n" = "\"" ++ "\n" := rfl
  refine List.flatMap_congr fun h _ => ?_
  rw [Segment.text_unguarded rfl, hend, ← String.append_assoc]
  rfl

theorem toList_source : (source o headers ks).toList =
    (segments o headers ks).flatMap (·.text.toList) ++ (lastLine o).toList := by
  have hend : "\x7d\n\n\x7d // namespace ".toList =
      "\x7d\n\n".toList ++ "\x7d // namespace ".toList := rfl
  unfold source Glue.sourceText
  simp only [String.toList_append, String.toList_join, toList_includeTexts, toList_wrapperTexts,
    toList_registrationTexts, hend, segments, List.map_append, List.flatMap_cons,
    List.flatMap_append, List.flatMap_nil, lastLine, Segment.text_unguarded, List.append_assoc,
    List.append_nil]

theorem isSound_includeSegment {header : Attribute} (h : Text.IsInertLine header.shown) :
    (includeSegment header).IsSound := by
  have hr : '\r' ∉ header.shown.toList := fun hc => (h.inert '\r' hc).2 rfl
  refine Segment.isSound_line ?_ ?_ ?_
  · simp [h.oneLine]
  · simp [hr]
  · rw [String.toList_append, String.toList_append, List.append_assoc]
    rfl

/-- What is generated for the declaration has no directive but those of its guard. -/
structure IsSound (k : GuardedCode) : Prop where
  guard : ∀ g, k.guard? = some g → Text.IsInertLine g
  wrapper : ∀ code, k.wrapper? = some code → Text.IsInert code ∧ Text.IsWhole code
  registration : Text.IsInert k.registration ∧ Text.IsWhole k.registration

theorem IsSound.under (h : k.IsSound) : (k.under defined).IsSound := by
  have hblank : Text.IsInert "" ∧ Text.IsWhole "" := ⟨by decide, by decide⟩
  refine ⟨fun g hg => (by cases hg), fun code hcode => ?_, ?_⟩
  · obtain ⟨code', hcode', rfl⟩ := Option.map_eq_some_iff.1 hcode
    split
    · exact h.wrapper code' hcode'
    · exact hblank
  · rw [GuardedCode.under]
    dsimp only
    split
    · exact h.registration
    · exact hblank

theorem wrapperSegments_isSound (h : k.IsSound) : ∀ s ∈ wrapperSegments k, s.IsSound := by
  rw [wrapperSegments]
  cases hk : k.wrapper? with
  | none => simp
  | some code =>
    obtain ⟨hi, hw⟩ := h.wrapper code hk
    refine List.forall_mem_cons.2 ⟨Segment.isSound_of_isInert hi hw h.guard, ?_⟩
    exact List.forall_mem_singleton.2 (Segment.isSound_unguarded (by decide) (by decide))

theorem registrationSegments_isSound (h : k.IsSound) :
    ∀ s ∈ registrationSegments k, s.IsSound := by
  obtain ⟨hi, hw⟩ := h.registration
  refine List.forall_mem_cons.2 ⟨Segment.isSound_of_isInert hi hw h.guard, ?_⟩
  exact List.forall_mem_singleton.2 (Segment.isSound_unguarded (by decide) (by decide))

theorem segments_isSound (ho : o.IsInert) (hh : ∀ h ∈ headers, Text.IsInertLine h.shown)
    (hk : ∀ k ∈ ks, k.IsSound) : ∀ s ∈ segments o headers ks, s.IsSound := by
  have hincludes : ∀ s ∈ (o.includes ++ headers).map includeSegment, s.IsSound := by
    intro s hs
    obtain ⟨h, hm, rfl⟩ := List.mem_map.1 hs
    exact isSound_includeSegment (List.forall_mem_append.2 ⟨ho.includes, hh⟩ h hm)
  have hwrappers : ∀ s ∈ ks.flatMap wrapperSegments, s.IsSound := by
    intro s hs
    obtain ⟨k, hm, hs⟩ := List.mem_flatMap.1 hs
    exact wrapperSegments_isSound (hk k hm) s hs
  have hregistrations : ∀ s ∈ ks.flatMap registrationSegments, s.IsSound := by
    intro s hs
    obtain ⟨k, hm, hs⟩ := List.mem_flatMap.1 hs
    exact registrationSegments_isSound (hk k hm) s hs
  have hnamespace := ho.namespaceName.inert
  have hfunction := ho.registerFunction.inert
  rw [segments]
  refine List.forall_mem_cons.2 ⟨Segment.isSound_unguarded (by decide) (by decide), ?_⟩
  refine List.forall_mem_append.2 ⟨hincludes, List.forall_mem_cons.2 ⟨?_, ?_⟩⟩
  · exact Segment.isSound_unguarded (by simp +decide [hnamespace]) (.ending _ (by decide))
  refine List.forall_mem_append.2 ⟨hwrappers, List.forall_mem_cons.2 ⟨?_, ?_⟩⟩
  · exact Segment.isSound_unguarded (by simp +decide [hfunction]) (.ending _ (by decide))
  refine List.forall_mem_append.2 ⟨hregistrations, List.forall_mem_singleton.2 ?_⟩
  exact Segment.isSound_unguarded (by decide) (by decide)

theorem lines_source (ho : o.IsInert) (hh : ∀ h ∈ headers, Text.IsInertLine h.shown)
    (hk : ∀ k ∈ ks, k.IsSound) : lines (source o headers ks) =
      ((segments o headers ks).flatMap (·.text.toList) ++ (lastLine o).toList).splitOn '\n' := by
  have hlast : Text.IsInert (lastLine o) :=
    (by decide : Text.IsInert "\x7d // namespace ").append ho.namespaceName.inert
  have hunix : '\r' ∉ (source o headers ks).toList := by
    rw [toList_source, List.mem_append, List.mem_flatMap, not_or]
    refine ⟨fun ⟨s, hs, hc⟩ => ?_, fun hc => (hlast '\r' hc).2 rfl⟩
    exact Segment.unix_text (segments_isSound ho hh hk s hs) hc
  rw [lines, Text.unixLines_of_not_mem hunix, toList_source]

theorem compiled?_source (ho : o.IsInert) (hh : ∀ h ∈ headers, Text.IsInertLine h.shown)
    (hk : ∀ k ∈ ks, k.IsSound) : compiled? defined none (lines (source o headers ks)) =
      some (lines (source o headers (ks.map (·.under defined)))) := by
  have hunder : ∀ k ∈ ks.map (·.under defined), k.IsSound := by
    intro k hm
    obtain ⟨k', hk', rfl⟩ := List.mem_map.1 hm
    exact (hk k' hk').under
  have hlast : '#' ∉ (lastLine o).toList := by
    have hnamespace : '#' ∉ o.namespaceName.shown.toList := fun hc =>
      (ho.namespaceName.inert '#' hc).1 rfl
    simp [lastLine, hnamespace]
  rw [lines_source ho hh hk, lines_source ho hh hunder, ← segments_under, List.flatMap_map]
  exact Segment.compiled?_texts (segments_isSound ho hh hk) hlast

/-- The wrapper and the registration of a bound declaration, both with the guard of its header. -/
structure IsFor (i : Inputs) (e : BoundEntry) (k : GuardedCode) : Prop where
  declared : (∃ f ∈ i.functions, f.signature = e.declaration ∧
      k.guard? = i.catalog.conventions.guardFor? f.header) ∨
    ∃ f ∈ i.fields, f.signature = e.declaration ∧
      k.guard? = i.catalog.conventions.guardFor? f.header
  registered : ∃ r : Registration, r.Registers e ∧ r.guard? = k.guard? ∧ r.code = k.registration
  wrapped : k.wrapper?.isSome = e.wrapper?.isSome
  defined : ∀ code, k.wrapper? = some code → ∃ (w : Wrapper) (p : WrapperParts), w.entry = e ∧
    w.parts = .ok p ∧ e.wrapper? = some p.name ∧ p.guard? = k.guard? ∧ p.code = code

structure IsOf (i : Inputs) (b : Binding) (k : GuardedCode) : Prop where
  wrapper : b.wrapperSource? = k.wrapperText?
  registration : b.registration.text = k.registrationText
  entry : k.IsFor i b.entry
  sound : k.IsSound

variable {i : Inputs} {b : Binding} {bs : List Binding}

theorem texts_of_isOf (h : List.Forall₂ (IsOf i) bs ks) :
    bs.filterMap (·.wrapperSource?) = ks.filterMap (·.wrapperText?) ∧
      bs.map (·.registration.text) = ks.map (·.registrationText) := by
  induction h with
  | nil => exact ⟨rfl, rfl⟩
  | cons hb _ ih =>
    rw [List.filterMap_cons, List.filterMap_cons, List.map_cons, List.map_cons, hb.wrapper,
      hb.registration, ih.1, ih.2]
    exact ⟨rfl, rfl⟩

theorem exists_wrapper {w : Wrapper} (hw : w.IsInert) (h : w.bind .packaged o = .ok b) :
    ∃ wrapper? : Option String, b.wrapperSource? = wrapper?.map (Template.guarded w.guard?) ∧
      ∀ code, wrapper? = some code → (Text.IsInert code ∧ Text.IsWhole code) ∧ ∃ p,
        w.parts = .ok p ∧ w.entry.wrapper? = some p.name ∧ p.guard? = w.guard? ∧
          p.code = code := by
  obtain ⟨pointer, source?, -, rfl, hsource⟩ := Wrapper.bind_eq_ok h
  cases hn : w.isNeeded with
  | false =>
    rw [hn, if_neg Bool.false_ne_true] at hsource
    exact ⟨none, hsource, by simp⟩
  | true =>
    rw [hn, if_pos rfl] at hsource
    obtain ⟨source, hrender, rfl⟩ := hsource
    obtain ⟨p, hp, rfl⟩ := Wrapper.render_packaged.1 hrender
    have hguard := Wrapper.guard_of_parts hp
    have hname : w.entry.wrapper? = some p.name := by
      rw [Wrapper.name_of_parts hp, Wrapper.entry, hn, if_pos rfl]
    have hinert := WrapperParts.code_isInert (Wrapper.parts_isInert hw hp)
    refine ⟨some p.code, ?_, ?_⟩
    · rw [Option.map_some, ← hguard]
      rfl
    · rintro _ ⟨⟩
      exact ⟨⟨hinert, p.code_isWhole⟩, p, hp, hname, hguard, rfl⟩

theorem exists_isOf_of_wrapper {w : Wrapper} {f : FunctionDecl} (hi : i.IsInert)
    (hs : f.SpecializesInertly) (hf : f ∈ i.functions) (hw : Wrapper.build i.catalog f = .ok w)
    (h : w.bind .packaged o = .ok b) : ∃ k, IsOf i b k := by
  have hinert := Wrapper.isInert_of_build hi.conventions (hi.functions f hf) hs hw
  have hregistration := Wrapper.registration_isInert hinert h
  have hfaithful := Wrapper.bind_isFaithful h
  have hentry := Wrapper.entry_of_bind h
  have hguard := Wrapper.guard_of_build hw
  have hsignature : f.signature = w.entry.declaration := by
    rw [← Wrapper.function_of_build hw]
    rfl
  obtain ⟨wrapper?, hwrapper, hcode⟩ := exists_wrapper hinert h
  have hsome : wrapper?.isSome = b.entry.wrapper?.isSome := by
    rw [← hfaithful.wrapped, hwrapper, Option.isSome_map]
  have hregistered := hfaithful.registered
  obtain ⟨pointer, source?, -, rfl, -⟩ := Wrapper.bind_eq_ok h
  refine ⟨⟨w.guard?, wrapper?, _⟩, hwrapper, rfl, ⟨.inl ⟨f, hf, hsignature, hguard⟩,
    ⟨_, hregistered, rfl, rfl⟩, hsome, fun code hc => ?_⟩,
    ⟨fun g hg => ?_, fun code hc => (hcode code hc).1, hregistration, Registration.code_isWhole _⟩⟩
  · obtain ⟨-, p, hp, hname, hg, rfl⟩ := hcode code hc
    rw [hentry]
    exact ⟨w, p, rfl, hp, hname, hg, rfl⟩
  · exact Conventions.guardFor?_isInert hi.conventions (hguard ▸ hg)

theorem exists_isOf_of_field {f : FieldDecl} (hi : i.IsInert) (hf : f ∈ i.fields)
    (h : f.bind i.catalog o = .ok b) : ∃ k, IsOf i b k := by
  have hregistration := FieldDecl.registration_isInert (hi.fields f hf) h
  have hfaithful := FieldDecl.bind_isFaithful h
  obtain ⟨type, -, rfl⟩ := FieldDecl.bind_eq_ok.1 h
  refine ⟨⟨i.catalog.conventions.guardFor? f.header, none, _⟩, rfl, rfl, ⟨.inr ⟨f, hf, rfl, rfl⟩,
    ⟨_, hfaithful.registered, rfl, rfl⟩, rfl, by simp⟩, ⟨?_, by simp, ?_⟩⟩
  · intro g hg
    exact Conventions.guardFor?_isInert hi.conventions hg
  · exact ⟨hregistration, Registration.code_isWhole _⟩

theorem exists_isOf {ws : List Wrapper} (hi : i.IsInert)
    (hs : ∀ f ∈ i.functions, f.SpecializesInertly)
    (hw : ∀ w ∈ ws, ∃ f ∈ i.functions, Wrapper.build i.catalog f = .ok w)
    (h : List.Forall₂ (fun w b => w.bind .packaged o = .ok b) ws bs) :
    ∃ ks, List.Forall₂ (IsOf i) (bs ++ i.boundFields o) ks := by
  refine exists_forall₂ fun b hb => ?_
  rcases List.mem_append.1 hb with hb | hb
  · obtain ⟨w, hm, hbind⟩ := exists_of_mem_forall₂ h hb
    obtain ⟨f, hf, hbuild⟩ := hw w hm
    exact exists_isOf_of_wrapper hi (hs f hf) hf hbuild hbind
  · obtain ⟨f, hf, hbind⟩ := Inputs.exists_bind_of_mem_boundFields hb
    exact exists_isOf_of_field hi hf hbind

end GuardedCode

namespace CommandLine

variable {s s' : LoggedTree} {told : List Notice} {library : FileTree → TemplateLibrary}
  {o : GlueOptions} {d : Destination} {i : Inputs} {r : Report}

/-- If nothing that the source is made of has a directive, then each of its groups is closed before
the next one is opened, and of each bound declaration the wrapper and the registration are compiled
exactly if the macro of its header is defined or the header has none. -/
theorem emit_compiled (hl : ∀ t, library t = .packaged)
    (ht : o.bindingsTemplate = Template.bindingsName) (ho : o.IsInert) (hi : i.IsInert)
    (hs : ∀ f ∈ i.functions, f.SpecializesInertly)
    (h : (emit s told library o d i).outcome = .ok (s', r)) :
    ∃ ks, List.Forall₂ (GuardedCode.IsFor i) r.bound ks ∧
      d.Holds s'.tree (GuardedCode.source o (i.headers o.strippedHead) ks) ∧
      ∀ defined,
        compiled? defined none (lines (GuardedCode.source o (i.headers o.strippedHead) ks)) =
          some (lines (GuardedCode.source o (i.headers o.strippedHead)
            (ks.map (·.under defined)))) := by
  obtain ⟨functions, hf, hholds, hbound⟩ := emit_bindings hl ht h
  obtain ⟨ks, hks⟩ := GuardedCode.exists_isOf hi hs
    (fun w hw => Inputs.exists_build_of_mem_selected hw) hf
  obtain ⟨hwrappers, hregistrations⟩ := GuardedCode.texts_of_isOf hks
  have hsound : ∀ k ∈ ks, k.IsSound := by
    intro k hk
    obtain ⟨b, -, hb⟩ := exists_of_mem_forall₂ hks hk
    exact hb.sound
  refine ⟨ks, ?_, ?_, fun defined => ?_⟩
  · rw [hbound, List.forall₂_map_left_iff]
    exact hks.imp fun _ _ hb => hb.entry
  · rw [GuardedCode.source, ← hwrappers, ← hregistrations]
    exact hholds
  · exact GuardedCode.compiled?_source ho (Inputs.headers_isInert hi _) hsound

/-- A guarded function that needs a wrapper, a template with a parameter, and a guarded field. -/
def finders : Inputs where
  catalog := .build {} [{ name := "Node", isRefCounted := true }] [] []
  functions := [
    { name := "Find", returnType := .plain "Vector<String>", header := "Navigation/Find.h" },
    { name := "Count", returnType := .plain "int",
      parameters := [{ name := "x", type := .plain "T" }],
      specialization := ⟨[(.text "T", "float")]⟩ }]
  fields := [{ name := "size", type := .plain "int", owner := "Node", header := "Physics/Node.h" }]

theorem emit_compiled_finders :
    (GlueOptions.IsInert {} ∧ finders.IsInert ∧
      ∀ f ∈ finders.functions, f.SpecializesInertly) ∧ ∃ s' r,
      (emit { tree := {} } [] (fun _ => .packaged) {} freshDestination finders).outcome =
        .ok (s', r) ∧
      ∃ ks, List.Forall₂ (GuardedCode.IsFor finders) r.bound ks ∧
        freshDestination.Holds s'.tree (GuardedCode.source {} (finders.headers "") ks) ∧
        ∀ defined, compiled? defined none (lines (GuardedCode.source {} (finders.headers "") ks)) =
          some (lines (GuardedCode.source {} (finders.headers "") (ks.map (·.under defined)))) := by
  have ho : GlueOptions.IsInert {} := by decide
  have hi : finders.IsInert := by decide
  have htyped : finders.IsTyped := by decide
  have hs : ∀ f ∈ finders.functions, f.SpecializesInertly := by
    intro f hf e he
    exact Specialization.isInert_of_isPlain ((htyped.functions f hf).specialization e he)
      ((hi.functions f hf).specialization e he).inert
  obtain ⟨s', r, h⟩ := emit_total (isReady_of_isTyped htyped) []
  exact ⟨⟨ho, hi, hs⟩, s', r, h, emit_compiled (fun _ => rfl) rfl ho hi hs h⟩

/-- A specialization in which escapes stand for line breaks and a `#`. -/
def escapedCounter : Inputs where
  catalog := .build {} [] [] []
  functions := [
    { name := "Count", returnType := .plain "int",
      parameters := [{ name := "x", type := .plain "int" }],
      specialization := ⟨[(.text "int", "int)\\n\\043endif\\n//")]⟩ }]
  fields := []

def escapedBinding : Binding where
  entry := {
    declaration := "int Count(int)"
    script := "int Count(int)"
    registration? := some "asFUNCTIONPR(Count, (int)\n#endif\n//), int)" }
  registration := {
    statements :=
      [.globalFunction "int Count(int)" "asFUNCTIONPR(Count, (int)\n#endif\n//), int)"]
    comment? := some "int Count(int)" }

theorem escapedCounter_bind :
    escapedCounter.selected.mapM (Wrapper.bind .packaged {}) = .ok [escapedBinding] := rfl

def escapedSource : String :=
  GuardedCode.source {} [] [{ wrapper? := none, registration := escapedBinding.registration.code }]

theorem escapedSource_lines : (lines escapedSource)[12]? = some "#endif".toList ∧
    ∀ l ∈ (lines escapedSource).take 12, (directive? l).isNone = true := by
  rw [lines, escapedSource, GuardedCode.toList_source]
  decide +kernel

theorem emit_compiled_escapes : GlueOptions.IsInert {} ∧ escapedCounter.IsInert ∧ ∃ s' r text,
    (emit { tree := {} } [] (fun _ => .packaged) {} freshDestination escapedCounter).outcome =
      .ok (s', r) ∧
    freshDestination.Holds s'.tree text ∧
    ∀ defined, compiled? defined none (lines text) = none := by
  have hwritable : ∀ told, (LoggedTree.view { tree := {} } told).IsWritable
      freshDestination.sourcePath := fun _ => freshDestination_isWritable
  obtain ⟨g, hg, -⟩ := Glue.generate_of_checks (t := fun _ => .packaged) rfl rfl rfl
    escapedCounter_bind (TemplateLibrary.render_bindings ..)
  obtain ⟨s', hs⟩ := LoggedTree.deliver_total (hwritable _)
  have hemit : (emit { tree := {} } [] (fun _ => .packaged) {} freshDestination
      escapedCounter).outcome = .ok (s', g.report) := emit_eq_ok.2 ⟨g, hg, hs, rfl⟩
  obtain ⟨functions, hf, hholds, -⟩ := emit_bindings (fun _ => rfl) rfl hemit
  -- The text is the one that the bindings make, which spares rendering it.
  obtain rfl : functions = [escapedBinding] :=
    Except.ok.inj ((Outcome.mapM_eq_ok.2 hf).symm.trans escapedCounter_bind)
  refine ⟨by decide, by decide, s', g.report, escapedSource, hemit, hholds, fun defined => ?_⟩
  obtain ⟨hclose, hbefore⟩ := escapedSource_lines
  obtain ⟨hlength, hline⟩ := List.getElem?_eq_some_iff.1 hclose
  rw [← List.take_append_drop 12 (lines escapedSource), List.drop_eq_getElem_cons hlength,
    hline]
  exact compiled?_unopened fun l hl => Option.isNone_iff_eq_none.1 (hbefore l hl)

end CommandLine

end ScriptGlue

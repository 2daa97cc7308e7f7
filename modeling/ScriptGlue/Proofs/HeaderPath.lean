import Mathlib.Data.List.Infix
import ScriptGlue.Proofs.Gathered
import ScriptGlue.Proofs.Generation
import ScriptGlue.Proofs.Separation

namespace ScriptGlue

namespace Path

variable {p f here : Path} {s rest : List Char}

/-- The components are names of files and directories. -/
def HasNames (p : Path) : Prop := ∀ n ∈ p.parts, n ≠ "" ∧ '/' ∉ n.toList

instance (p : Path) : Decidable p.HasNames := inferInstanceAs (Decidable (∀ n ∈ p.parts, _ ∧ _))

structure IsResolved (p : Path) : Prop where
  slashes : p.slashes = 1
  names : p.HasNames

/-- What the paths of all files below a directory begin with. The root has its slash already. -/
def opening (p : Path) : String := if p.parts.isEmpty then p.text else p.text ++ "/"

/-- The directory `f` is above the file or directory `p`. -/
def IsAbove (f p : Path) : Prop := f.parts <+: p.parts ∧ f.parts ≠ p.parts

instance (f p : Path) : Decidable (f.IsAbove p) := inferInstanceAs (Decidable (_ ∧ _))

section Resolved

theorem hasNames_ofString (s : String) : (ofString s).HasNames := by
  intro n hn
  obtain ⟨hn, hkeep⟩ := List.mem_filter.1 hn
  obtain ⟨w, hw, rfl⟩ := List.mem_map.1 hn
  refine ⟨?_, by rw [String.toList_ofList]; exact (Text.of_mem_splitOn hw).2⟩
  intro hempty
  rw [hempty] at hkeep
  cases hkeep

theorem mem_of_mem_climb {parts : List String} {n : String} (h : n ∈ climb parts) : n ∈ parts := by
  suffices ∀ done, n ∈ parts.foldl (fun done p =>
      if p == ".." then done.dropLast else done ++ [p]) done → n ∈ done ∨ n ∈ parts by
    exact (this [] h).resolve_left List.not_mem_nil
  intro done h
  clear * - h
  induction parts generalizing done with
  | nil => exact .inl h
  | cons p ps ih =>
    rw [List.foldl_cons] at h
    rcases ih _ h with hd | hps
    · split at hd
      · exact .inl (List.dropLast_subset _ hd)
      · rcases List.mem_append.1 hd with hd | hp
        · exact .inl hd
        · rw [List.mem_singleton.1 hp]
          exact .inr List.mem_cons_self
    · exact .inr (List.mem_cons_of_mem p hps)

theorem HasNames.isResolved_resolve (hhere : here.HasNames) (s : String) :
    ((ofString s).resolve here).IsResolved where
  slashes := rfl
  names n hn := by
    have hn : n ∈ (here.join (ofString s)).parts := mem_of_mem_climb hn
    rw [join] at hn
    split at hn
    · exact hasNames_ofString s n hn
    · exact (List.mem_append.1 hn).elim (hhere n) (hasNames_ofString s n)

end Resolved

section Texts

theorem IsResolved.toList_text (h : p.IsResolved) :
    p.text.toList = '/' :: ['/'].intercalate (p.parts.map String.toList) := by
  rw [text, if_neg (by simp [h.slashes]), h.slashes, String.toList_append, String.toList_ofList,
    String.toList_intercalate]
  rfl

theorem IsResolved.toList_opening (h : p.IsResolved) :
    p.opening.toList = '/' :: (p.parts.map String.toList).flatMap (· ++ ['/']) := by
  rw [opening]
  split
  · rename_i hempty
    rw [h.toList_text, List.isEmpty_iff.1 hempty]
    rfl
  · rename_i hne
    rw [String.toList_append, h.toList_text, ← Text.intercalate_append (by simpa using hne)]
    rfl

theorem flatMap_prefix_iff {ms ns : List (List Char)} (hm : ∀ m ∈ ms, '/' ∉ m)
    (hn : ∀ n ∈ ns, '/' ∉ n) :
    ms.flatMap (· ++ ['/']) <+: ns.flatMap (· ++ ['/']) ↔ ms <+: ns := by
  constructor
  · intro h
    induction ms generalizing ns with
    | nil => exact List.nil_prefix
    | cons m ms ih =>
      obtain ⟨t, ht⟩ := h
      cases ns with
      | nil => simp at ht
      | cons n ns =>
        rw [List.forall_mem_cons] at hm hn
        rw [List.flatMap_cons, List.flatMap_cons, List.append_assoc, List.append_assoc,
          List.append_assoc] at ht
        obtain ⟨rfl, hrest⟩ := Text.append_cons_inj hm.1 hn.1 ht
        exact List.cons_prefix_cons.2 ⟨rfl, ih hm.2 hn.2 ⟨t, hrest⟩⟩
  · rintro ⟨t, rfl⟩
    rw [List.flatMap_append]
    exact List.prefix_append _ _

theorem IsResolved.opening_prefix_iff (hf : f.IsResolved) (hp : p.IsResolved) :
    f.opening.toList <+: p.opening.toList ↔ f.parts <+: p.parts := by
  have hslash {q : Path} (hq : q.IsResolved) : ∀ n ∈ q.parts.map String.toList, '/' ∉ n := by
    intro n hn
    obtain ⟨m, hm, rfl⟩ := List.mem_map.1 hn
    exact (hq.names m hm).2
  rw [hf.toList_opening, hp.toList_opening, List.prefix_cons_inj,
    flatMap_prefix_iff (hslash hf) (hslash hp),
    List.prefix_map_iff_of_injective fun _ _ => String.toList_inj.1]

theorem toList_opening_of_ne (h : p.parts ≠ []) : p.opening.toList = p.text.toList ++ ['/'] := by
  rw [opening, if_neg (by simpa using h), String.toList_append]
  rfl

theorem intercalate_names {n : String} (hn : n ≠ "" ∧ '/' ∉ n.toList) (ms : List String) :
    ['/'].intercalate ((n :: ms).map String.toList) ≠ [] ∧
      '/' ∉ (['/'].intercalate ((n :: ms).map String.toList)).head? := by
  obtain ⟨c, cs, hc⟩ := List.exists_cons_of_ne_nil (mt String.toList_eq_nil_iff.1 hn.1)
  have hslash : c ≠ '/' := by
    rintro rfl
    exact hn.2 (by rw [hc]; exact List.mem_cons_self)
  cases ms <;> simp [hc, hslash]

/-- A directory is above a file if the path of the file begins with it and goes on with a name. -/
theorem IsResolved.isAbove_iff (hf : f.IsResolved) (hp : p.IsResolved) :
    f.IsAbove p ↔ ∃ rest, p.text.toList = f.opening.toList ++ rest ∧ rest ≠ [] ∧
      '/' ∉ rest.head? := by
  constructor
  · rintro ⟨⟨ns, hns⟩, hproper⟩
    have hne : ns ≠ [] := by
      rintro rfl
      exact hproper (by rw [← hns, List.append_nil])
    obtain ⟨n, ms, rfl⟩ := List.exists_cons_of_ne_nil hne
    have hn := hp.names n (by rw [← hns]; exact List.mem_append_right _ List.mem_cons_self)
    refine ⟨_, ?_, intercalate_names hn ms⟩
    refine List.append_cancel_right (?_ : _ ++ ['/'] = _ ++ ['/'])
    rw [← toList_opening_of_ne (by simp [← hns]), hp.toList_opening, ← hns, List.map_append,
      List.flatMap_append, hf.toList_opening, List.append_assoc, Text.intercalate_append (by simp)]
    rfl
  · rintro ⟨rest, hrest, hne, -⟩
    have hparts : p.parts ≠ [] := by
      intro hempty
      have hroot : p.text.toList = ['/'] := by
        rw [hp.toList_text, hempty]
        rfl
      rw [hroot, hf.toList_opening, List.cons_append, List.cons.injEq] at hrest
      exact hne (List.append_eq_nil_iff.1 hrest.2.symm).2
    have hopening : p.opening.toList = f.opening.toList ++ (rest ++ ['/']) := by
      rw [toList_opening_of_ne hparts, hrest, List.append_assoc]
    refine ⟨(hf.opening_prefix_iff hp).1 ⟨_, hopening.symm⟩, fun heq => ?_⟩
    rw [hf.toList_opening, heq, ← hp.toList_opening] at hopening
    simp at hopening

theorem IsAbove.of_prefix {g : Path} (h : g.IsAbove p) (hfg : f.parts <+: g.parts) :
    f.IsAbove p := by
  refine ⟨hfg.trans h.1, fun heq => h.2 ?_⟩
  rw [heq] at hfg
  exact h.1.eq_of_length_le hfg.length_le

/-- If the path of a directory and slashes after it are what the paths below `g` begin with, the
directory is `g` or above it. -/
theorem IsResolved.parts_within {g : Path} (hf : f.IsResolved) (hg : g.IsResolved)
    {slashes : List Char} (hslashes : ∀ c ∈ slashes, c = '/')
    (h : f.text.toList ++ slashes = g.opening.toList) : f.parts <+: g.parts := by
  by_cases hroot : f.parts = []
  · rw [hroot]
    exact List.nil_prefix
  cases slashes with
  | nil =>
    -- There is no such case, since the path of `f` does not end in a slash. It is enough here that
    -- `g` can not be properly above `f`.
    rw [List.append_nil] at h
    have hwithin : g.parts <+: f.parts := by
      rw [← hg.opening_prefix_iff hf, toList_opening_of_ne hroot, h]
      exact List.prefix_append _ _
    by_cases heq : g.parts = f.parts
    · rw [heq]
    · obtain ⟨rest, hrest, hne, -⟩ := (hg.isAbove_iff hf).1 ⟨hwithin, heq⟩
      rw [h, List.self_eq_append_right] at hrest
      exact absurd hrest hne
  | cons c cs =>
    obtain rfl := hslashes c List.mem_cons_self
    rw [← hf.opening_prefix_iff hg, toList_opening_of_ne hroot, ← h, List.append_cons _ '/' cs]
    exact List.prefix_append _ _

/-- A filter that the path of a file begins with is a directory above the file exactly if what is
left, without slashes at its head, names the file from one of the filters. -/
theorem IsResolved.isAbove_iff_exists {dirs : List Path} (hdirs : ∀ d ∈ dirs, d.IsResolved)
    (hp : p.IsResolved) (hf : f ∈ dirs) (h : f.text.toList ++ rest = p.text.toList) :
    f.IsAbove p ↔ rest.dropWhile (· == '/') ≠ [] ∧
      ∃ d ∈ dirs, d.opening.toList ++ rest.dropWhile (· == '/') = p.text.toList := by
  constructor
  · intro habove
    obtain ⟨name, hname, hne, hhead⟩ := ((hdirs f hf).isAbove_iff hp).1 habove
    have hrest : rest.dropWhile (· == '/') = name := by
      obtain ⟨c, cs, rfl⟩ := List.exists_cons_of_ne_nil hne
      have hdrop : (c :: cs).dropWhile (· == '/') = c :: cs := by
        refine List.dropWhile_cons_of_neg (p := (· == '/')) fun hc => hhead ?_
        rw [beq_iff_eq.1 hc]
        rfl
      rw [hname, opening] at h
      split at h
      · rw [List.append_cancel_left h, hdrop]
      · rw [String.toList_append, List.append_assoc] at h
        rw [List.append_cancel_left h]
        exact hdrop
    rw [hrest]
    exact ⟨hne, f, hf, hname.symm⟩
  · rintro ⟨hne, d, hd, hopening⟩
    have habove : d.IsAbove p := by
      refine ((hdirs d hd).isAbove_iff hp).2 ⟨_, hopening.symm, hne, fun hhead => ?_⟩
      cases Text.not_of_mem_head?_dropWhile hhead
    have hslashes : ∀ c ∈ rest.takeWhile (· == '/'), c = '/' := fun c hc =>
      beq_iff_eq.1 (List.mem_takeWhile_imp (p := (· == '/')) hc)
    refine habove.of_prefix ((hdirs f hf).parts_within (hdirs d hd) hslashes ?_)
    refine List.append_cancel_right (?_ : _ ++ rest.dropWhile (· == '/') = _)
    rw [List.append_assoc, List.takeWhile_append_dropWhile, h, hopening]

end Texts

end Path

namespace CollectionRules

variable {r : CollectionRules} {dirs : List Path} {p : Path} {n above : NodePath} {c : Cursor}
  {s : Sighting} {a : Attribute} {header : String}

def fileOf? (r : CollectionRules) (n : NodePath) : Option Path :=
  (n.head?.bind (·.info.file?)).map fun f => (Path.ofString f).resolve r.here

/-- Read from one of the directories, the header names the file that the node lies in. -/
def NamesFile (r : CollectionRules) (dirs : List Path) (n : NodePath) (header : String) : Prop :=
  header ≠ "" ∧ ∃ p ∈ r.fileOf? n, ∃ d ∈ dirs, d.opening ++ header = p.text

instance (r : CollectionRules) (dirs : List Path) (n : NodePath) (header : String) :
    Decidable (r.NamesFile dirs n header) :=
  inferInstanceAs (Decidable (header ≠ "" ∧ ∃ p ∈ r.fileOf? n, ∃ d ∈ dirs, _ = _))

/-- The first of the directories whose text begins the path of the file is above this file. -/
def LiesInFirst (r : CollectionRules) (dirs : List Path) (n : NodePath) : Prop :=
  ∃ p ∈ r.fileOf? n, ∃ d ∈ dirs.find? fun d => Text.startsWith p.text d.text, d.IsAbove p

instance (r : CollectionRules) (dirs : List Path) (n : NodePath) :
    Decidable (r.LiesInFirst dirs n) :=
  inferInstanceAs (Decidable (∃ p ∈ r.fileOf? n, ∃ d ∈ dirs.find? _, _))

theorem findSome?_isPrefixOf? (dirs : List Path) (s : String) :
    dirs.findSome? (·.text.toList.isPrefixOf? s.toList) =
      (dirs.find? fun d => Text.startsWith s d.text).bind
        (·.text.toList.isPrefixOf? s.toList) := by
  induction dirs with
  | nil => rfl
  | cons d ds ih =>
    have hsome := List.isSome_isPrefixOf?_eq_isPrefixOf d.text.toList s.toList
    rw [List.findSome?_cons, List.find?_cons, Text.startsWith, ← hsome]
    cases hrest : d.text.toList.isPrefixOf? s.toList with
    | none => exact ih
    | some rest => exact hrest.symm

theorem relativePath_eq (hfilters : r.filters = dirs.map (·.text)) (s : String) :
    r.relativePath s =
      match (dirs.find? fun d => Text.startsWith s d.text).bind
        (·.text.toList.isPrefixOf? s.toList) with
      | some rest => String.ofList (rest.dropWhile (· == '/'))
      | none => s := by
  rw [relativePath, hfilters, List.findSome?_map, ← findSome?_isPrefixOf?]
  rfl

theorem header_of_fileOf? (hp : p ∈ r.fileOf? (c :: above)) :
    r.header c.info = r.relativePath p.text := by
  obtain ⟨file, hfile, rfl⟩ := Option.map_eq_some_iff.1 hp
  have hfile : c.info.file? = some file := hfile
  rw [header, filePath?, hfile]
  rfl

/-- The header of a node names its file exactly if the first filter that applies is a directory
above this file. -/
theorem namesFile_iff (hfilters : r.filters = dirs.map (·.text))
    (hdirs : ∀ d ∈ dirs, d.IsResolved) (hhere : r.here.HasNames) :
    r.NamesFile dirs (c :: above) (r.header c.info) ↔ r.LiesInFirst dirs (c :: above) := by
  cases hfile : r.fileOf? (c :: above) with
  | none => simp [NamesFile, LiesInFirst, hfile]
  | some p =>
    have hp : p.IsResolved := by
      obtain ⟨file, -, rfl⟩ := Option.map_eq_some_iff.1 hfile
      exact hhere.isResolved_resolve file
    have hheader := (header_of_fileOf? hfile).trans (relativePath_eq hfilters p.text)
    rw [NamesFile, LiesInFirst, hfile]
    simp only [Option.mem_some, exists_eq_left']
    cases hfirst : dirs.find? fun d => Text.startsWith p.text d.text with
    | none =>
      -- The header is the whole path, which nothing but the empty path could stand before.
      rw [hfirst] at hheader
      have hheader : r.header c.info = p.text := hheader
      refine iff_of_false ?_ fun ⟨d, hd, _⟩ => by cases hd
      rintro ⟨-, d, hd, hopening⟩
      have hlong := congrArg String.toList hopening
      rw [hheader, String.toList_append, (hdirs d hd).toList_opening] at hlong
      exact List.cons_ne_nil _ _ (List.append_left_eq_self.1 hlong)
    | some d =>
      have hd := List.mem_of_find?_eq_some hfirst
      have hstart : Text.startsWith p.text d.text = true := by
        simpa using List.find?_some hfirst
      obtain ⟨rest, hrest⟩ := List.isPrefixOf_iff_prefix.1 hstart
      rw [hfirst, Option.bind_some, List.isPrefixOf?_eq_some_iff_append_eq.2 hrest] at hheader
      have hheader : (r.header c.info).toList = rest.dropWhile (· == '/') := by
        rw [hheader, String.toList_ofList]
      simp only [Option.mem_some, exists_eq_left',
        Path.IsResolved.isAbove_iff_exists hdirs hp hd hrest, ← String.toList_inj,
        String.toList_append, hheader, ne_eq, String.toList_empty]

end CollectionRules

/-- The header that a declaration is recorded under. -/
def Sighting.header? : Sighting → Option Attribute
  | excludedClass _ => none
  | classDecl _ d => some d.header
  | enumDecl _ e => some e.header
  | aliasDecl _ _ => none
  | functionDecl _ f? => f?.map (·.header)
  | fieldDecl _ f => some f.header

namespace CollectionRules

variable {r : CollectionRules} {above : NodePath} {c : Cursor} {s : Sighting} {a : Attribute}
  {i : CursorInfo} {owner : Attribute} {kind : FunctionKind}

theorem header?_of_mem_functionSightings (hs : s ∈ r.functionSightings i owner kind)
    (ha : s.header? = some a) : a = .string (r.header i) := by
  rw [functionSightings] at hs
  split at hs
  · exact absurd hs List.not_mem_nil
  · rw [List.mem_singleton.1 hs] at ha
    obtain ⟨f, hf, rfl⟩ := Option.map_eq_some_iff.1 ha
    obtain ⟨ps, -, hf⟩ := Option.bind_eq_some_iff.1 hf
    cases hf
    rfl

theorem header?_of_mem_shownAt (hs : s ∈ r.shownAt (c :: above)) (ha : s.header? = some a) :
    a = .string (r.header c.info) := by
  obtain ⟨i, cs⟩ := c
  refine shownAt_cases (P := fun s => s.header? = some a → a = .string (r.header i)) hs
    (fun ha => ?_) (fun _ ha => ?_) (fun s hs ha => ?_) (fun s hs ha => ?_)
    (fun _ _ s hs ha => header?_of_mem_functionSightings hs ha) (fun _ s hs ha => ?_) ha
  · cases ha
  · cases ha
    rfl
  · rw [enumSightings] at hs
    split at hs
    · exact absurd hs List.not_mem_nil
    · rw [List.mem_singleton.1 hs] at ha
      cases ha
      rfl
  · rw [aliasSightings] at hs
    split at hs
    · exact absurd hs List.not_mem_nil
    · rw [List.mem_singleton.1 hs] at ha
      cases ha
  · rw [List.mem_singleton.1 hs] at ha
    cases ha
    rfl

end CollectionRules

namespace Glue

variable {templates : List Notice → TemplateLibrary} {o : GlueOptions} {i : Inputs} {g : Glue}
  {header : String}

/-- The source has the line that includes the header. -/
def Includes (g : Glue) (header : String) : Prop :=
  ∃ before after, g.text = before ++ "\n#include \"" ++ header ++ "\"\n" ++ after

theorem exists_lineFeed (head : String) (lines : List String) :
    ∃ before, head ++ "\n" ++ String.join (lines.map (· ++ "\n")) = before ++ "\n" := by
  rcases lines.eq_nil_or_concat with rfl | ⟨lines, line, rfl⟩
  · exact ⟨head, String.append_empty⟩
  · refine ⟨head ++ "\n" ++ String.join (lines.map (· ++ "\n")) ++ line, ?_⟩
    rw [List.concat_eq_append, List.map_append, String.join_append, List.map_singleton,
      String.join_cons, String.join_nil, String.append_empty, String.append_assoc,
      String.append_assoc, String.append_assoc, String.append_assoc]

def includeLine (header : Attribute) : String := "#include \"" ++ header.shown ++ "\""

theorem includeLine_append (a : Attribute) :
    "#include \"" ++ a.shown ++ "\"\n" = includeLine a ++ "\n" := by
  rw [includeLine, String.append_assoc, String.append_assoc, String.append_assoc]
  rfl

/-- A source begins with a line that says what it is and goes on with those that include headers. -/
theorem exists_includeLines (o : GlueOptions) (headers : List Attribute)
    (wrappers registrations : List String) : ∃ head rest,
      sourceText o headers wrappers registrations = head ++ "\n" ++
        String.join (((o.includes ++ headers).map includeLine).map (· ++ "\n")) ++ rest := by
  unfold sourceText
  generalize hfirst :
    "// This file is generated by the AngelScript binding generator. Do not edit.\n\n" = first
  obtain ⟨head, hhead⟩ : ∃ head, first = head ++ "\n" :=
    ⟨"// This file is generated by the AngelScript binding generator. Do not edit.\n", by
      rw [← hfirst]; simp only [String.reduceAppend]⟩
  simp only [includeLine_append, hhead]
  simp only [List.map_append, String.join_append, List.map_map, String.append_assoc,
    Function.comp_def]
  exact ⟨head, _, rfl⟩

theorem string_mem_headers (ho : o.strippedHead = "") (hheader : header ≠ "")
    (h : .string header ∈ i.functions.map (·.header) ++ i.fields.map (·.header)) :
    .string header ∈ i.headers o.strippedHead := by
  have hgiven : .string header ∈ i.givenHeaders :=
    List.mem_filter.2 ⟨h, by simpa [Json.isTruthy] using hheader⟩
  rw [Inputs.headers, List.mem_eraseDups]
  refine List.mem_map.2 ⟨_, hgiven, ?_⟩
  rw [ho]
  exact congrArg Json.string String.ofList_toList

theorem generate_includes (ht : ∀ told, templates told = .packaged)
    (hb : o.bindingsTemplate = Template.bindingsName) (ho : o.strippedHead = "")
    (h : (generate templates o i).outcome = .ok g) (hheader : header ≠ "")
    (hmem : .string header ∈ i.functions.map (·.header) ++ i.fields.map (·.header)) :
    g.Includes header := by
  obtain ⟨wrappers, registrations, htext, -⟩ := generate_text ht hb h
  obtain ⟨head, rest, hsource⟩ :=
    exists_includeLines o (i.headers o.strippedHead) wrappers registrations
  obtain ⟨earlier, later, hsplit⟩ :=
    List.append_of_mem (List.mem_append_right o.includes (string_mem_headers ho hheader hmem))
  obtain ⟨before, hbefore⟩ := exists_lineFeed head (earlier.map includeLine)
  refine ⟨before, String.join ((later.map includeLine).map (· ++ "\n")) ++ rest, ?_⟩
  have hline : "\n#include \"" = "\n" ++ "#include \"" := rfl
  rw [htext, hsource, hsplit, List.map_append, List.map_append, String.join_append, List.map_cons,
    List.map_cons, String.join_cons, ← includeLine_append, Json.shown_string,
    ← String.append_assoc, hbefore, hline]
  simp only [String.append_assoc]

end Glue

namespace Collection

variable {p : HeaderParser} {r : CollectionRules} {conventions : Conventions}
  {arguments : List String} {headers : List Path} {emitDiagnostics : Bool} {i : Inputs}
  {dirs : List String}

/-- The header of each declaration that a run keeps names the file of the declaration exactly if
the first filter that applies to this file is a directory above it. A source that is generated from
what was kept includes all these headers. -/
theorem collect_namesFile_iff (hhere : r.here.HasNames)
    (hfilters : r.filters = dirs.map fun d => ((Path.ofString d).resolve r.here).text)
    (h : (collect p r conventions arguments headers emitDiagnostics).outcome = .ok i) :
    let units := headers.map fun h => (p.parse h.text).cursor
    let filters := dirs.map fun d => (Path.ofString d).resolve r.here
    (∃ c, (units.foldlM (visit r) {}).outcome = .ok c ∧ inputs conventions c = i ∧
      c.Holds fun s => ∀ a ∈ s.header?, ∃ u ∈ units, ∃ n ∈ u.paths, s ∈ r.shownAt n ∧
        ∃ header, a = .string header ∧ (r.NamesFile filters n header ↔ r.LiesInFirst filters n)) ∧
      ∀ (templates : List Notice → TemplateLibrary) (o : GlueOptions) (g : Glue),
        (∀ told, templates told = .packaged) → o.bindingsTemplate = Template.bindingsName →
        o.strippedHead = "" → (Glue.generate templates o i).outcome = .ok g →
        ∀ header ≠ "", .string header ∈ i.functions.map (·.header) ++ i.fields.map (·.header) →
          g.Includes header := by
  intro units filters
  refine ⟨?_, fun templates o g ht hb ho hg header => Glue.generate_includes ht hb ho hg⟩
  have hresolved : ∀ d ∈ filters, d.IsResolved := by
    intro d hd
    obtain ⟨s, -, rfl⟩ := List.mem_map.1 hd
    exact hhere.isResolved_resolve s
  have htexts : r.filters = filters.map (·.text) := by
    rw [hfilters, List.map_map]
    rfl
  obtain ⟨c, hc, hi⟩ := collect_eq_ok h
  refine ⟨c, hc, hi, (holds_shownAt hc).imp fun s => ?_⟩
  rintro ⟨u, hu, n, hn, hs⟩ a ha
  refine ⟨u, hu, n, hn, hs, ?_⟩
  cases n with
  | nil => exact absurd hs List.not_mem_nil
  | cons node above =>
    exact ⟨_, CollectionRules.header?_of_mem_shownAt hs ha,
      CollectionRules.namesFile_iff htexts hresolved hhere⟩

/-- A header with a class that has one method. -/
def pickerUnit (file : String) : Cursor := .node { kind := .translationUnit, file? := some file } [
  .node { kind := .classDecl, spelling := "Picker", file? := some file, usr := "c:@S@Picker" } [
    .node { kind := .method, spelling := "Pick", file? := some file, usr := "c:@S@Picker@F@Pick" }
      []]]

def pickerParser (file : String) : HeaderParser where
  parse _ := { cursor := pickerUnit file }

/-- The rules of a run in the root directory. -/
def rulesOf (dirs : List String) : CollectionRules where
  filters := dirs.map fun d => ((Path.ofString d).resolve ⟨1, []⟩).text

/-- The name of one directory begins with that of the directory beside it, and a file in it is
included under a path that leads from neither of the two to a file. -/
theorem collect_misnames_picker :
    let dirs := ["/engine/Scene", "/engine/SceneTools"]
    let filters := dirs.map fun d => (Path.ofString d).resolve ⟨1, []⟩
    let file := "/engine/SceneTools/Picker.h"
    ∃ c, ([pickerUnit file].foldlM (visit (rulesOf dirs)) {}).outcome = .ok c ∧
      (collect (pickerParser file) (rulesOf dirs) {} [] [.ofString file]).outcome =
        .ok (inputs {} c) ∧
      c.classes.values.map (·.header.shown) = ["Tools/Picker.h"] ∧
      c.functions.values.map (·.header.shown) = ["Tools/Picker.h"] ∧
      ∀ n ∈ (pickerUnit file).paths, ¬(rulesOf dirs).NamesFile filters n "Tools/Picker.h" ∧
        (rulesOf dirs).NamesFile filters n "Picker.h" := by
  intro dirs filters file
  have hheaders : ([pickerUnit file].foldlM (visit (rulesOf dirs)) {}).outcome.toOption.map
      (fun c => (c.classes.values.map (·.header.shown), c.functions.values.map (·.header.shown))) =
        some (["Tools/Picker.h"], ["Tools/Picker.h"]) := by decide +kernel
  obtain ⟨c, hc, hheaders⟩ := Option.map_eq_some_iff.1 hheaders
  have hnull : (rulesOf dirs).filters.any (·.contains '\x00') = false := by
    have htexts : (rulesOf dirs).filters = ["/engine/Scene", "/engine/SceneTools"] := by
      decide +kernel
    simp [htexts]
  obtain ⟨hclasses, hfunctions⟩ := Prod.ext_iff.1 hheaders
  have hvisit := Outcome.toOption_eq_some.1 hc
  exact ⟨c, hvisit, outcome_collect rfl hnull hvisit, hclasses, hfunctions,
    by decide +kernel⟩

theorem collect_namesFile_picker :
    let dirs := ["engine", "engine/SceneTools/"]
    let filters := dirs.map fun d => (Path.ofString d).resolve ⟨1, []⟩
    let file := "/engine/SceneTools/Picker.h"
    ∃ i, (collect (pickerParser file) (rulesOf dirs) {} [] [.ofString file]).outcome = .ok i ∧
      i.functions.map (·.header.shown) = ["SceneTools/Picker.h"] ∧
      ∃ c, ([pickerUnit file].foldlM (visit (rulesOf dirs)) {}).outcome = .ok c ∧
        inputs {} c = i ∧ c.Holds fun s => ∀ a ∈ s.header?, ∃ n ∈ (pickerUnit file).paths,
          s ∈ (rulesOf dirs).shownAt n ∧ ∃ header, a = .string header ∧
            (rulesOf dirs).NamesFile filters n header := by
  intro dirs filters file
  have hheaders : ([pickerUnit file].foldlM (visit (rulesOf dirs)) {}).outcome.toOption.map
      (fun c => c.functions.values.map (·.header.shown)) = some ["SceneTools/Picker.h"] := by
    decide +kernel
  obtain ⟨c, hc, hfunctions⟩ := Option.map_eq_some_iff.1 hheaders
  have hnull : (rulesOf dirs).filters.any (·.contains '\x00') = false := by
    have htexts : (rulesOf dirs).filters = ["/engine", "/engine/SceneTools"] := by decide +kernel
    simp [htexts]
  have hrun : (collect (pickerParser file) (rulesOf dirs) {} [] [.ofString file]).outcome = .ok _ :=
    outcome_collect rfl hnull (Outcome.toOption_eq_some.1 hc)
  have hfirst : ∀ n ∈ (pickerUnit file).paths, (rulesOf dirs).LiesInFirst filters n := by
    decide +kernel
  have hhere : (rulesOf dirs).here.HasNames := by decide
  have hfilters : (rulesOf dirs).filters =
    dirs.map fun d => ((Path.ofString d).resolve (rulesOf dirs).here).text := rfl
  obtain ⟨⟨c, hc, hi, hholds⟩, -⟩ := collect_namesFile_iff hhere hfilters hrun
  refine ⟨_, hrun, hfunctions, c, hc, hi, hholds.imp fun s hs a ha => ?_⟩
  obtain ⟨u, hu, n, hn, hshown, header, rfl, hnames⟩ := hs a ha
  obtain rfl := List.mem_singleton.1 hu
  exact ⟨n, hn, hshown, header, rfl, hnames.2 (hfirst n hn)⟩

end Collection

end ScriptGlue

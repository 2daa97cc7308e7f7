import ScriptGlue.Proofs.Conversion
import ScriptGlue.Proofs.Identifier
import ScriptGlue.Proofs.Wrapper

namespace ScriptGlue

namespace Text

variable {s t : List Char} {c : Char}

theorem replaceAll_singleton_empty (a : Char) (s : List Char) :
    replaceAll (String.singleton a) "" s = s.filter (· != a) := by
  rw [replaceAll, String.toList_singleton, replaceFrom_singleton]
  induction s with
  | nil => rfl
  | cons c cs ih =>
    rw [List.flatMap_cons, ih, List.filter_cons]
    by_cases h : c = a <;> simp [h]

theorem replaceFrom_cons_of_ne {old new : List Char} {a : Char} (h : c ≠ a) :
    replaceFrom (a :: old) new 0 (c :: s) = c :: replaceFrom (a :: old) new 0 s :=
  replaceFrom_cons_of_not_prefix fun hp => h (List.cons_prefix_cons.1 hp).1.symm

theorem replaceFrom_append_of_not_mem {old new : List Char} {a : Char} (h : a ∉ s)
    (t : List Char) :
    replaceFrom (a :: old) new 0 (s ++ t) = s ++ replaceFrom (a :: old) new 0 t := by
  induction s with
  | nil => rfl
  | cons c s ih =>
    rw [List.mem_cons, not_or] at h
    rw [List.cons_append, replaceFrom_cons_of_ne (Ne.symm h.1), ih h.2, List.cons_append]

theorem filter_replaceFrom {p : Char → Bool} {old : List Char} (hold : ∀ a ∈ old, p a = false)
    (skip : Nat) (s : List Char) (hskip : ∀ a ∈ s.take skip, p a = false) :
    (replaceFrom old [] skip s).filter p = s.filter p := by
  fun_induction replaceFrom old [] skip s with
  | case1 skip => rfl
  | case2 skip c cs ih =>
    rw [List.take_succ_cons, List.forall_mem_cons] at hskip
    rw [ih hskip.2, List.filter_cons_of_neg (by simp [hskip.1])]
  | case3 c cs hprefix ih =>
    rw [Bool.and_eq_true, List.isPrefixOf_iff_prefix] at hprefix
    obtain ⟨hne, rest, hrest⟩ := hprefix
    cases old with
    | nil => cases hne
    | cons a old =>
      rw [List.cons_append, List.cons.injEq] at hrest
      obtain ⟨rfl, rfl⟩ := hrest
      rw [List.forall_mem_cons] at hold
      rw [List.nil_append, ih, List.filter_cons_of_neg (by simp [hold.1])]
      rw [List.length_cons, Nat.add_sub_cancel, List.take_left]
      exact hold.2
  | case4 c cs hprefix ih =>
    rw [List.filter_cons, List.filter_cons, ih (by simp)]

theorem filter_foldl_replaceAll {p : Char → Bool} {marks : List String}
    (hmarks : ∀ m ∈ marks, ∀ a ∈ m.toList, p a = false) (s : List Char) :
    (marks.foldl (fun s m => replaceAll m "" s) s).filter p = s.filter p := by
  induction marks generalizing s with
  | nil => rfl
  | cons m marks ih =>
    rw [List.forall_mem_cons] at hmarks
    rw [List.foldl_cons, ih hmarks.2]
    exact filter_replaceFrom hmarks.1 0 s (by simp)

end Text

namespace CppType

open Text

variable {nested : Bool} {s t : List Char} {c : Char}

/-- Names that are put together from identifiers, spaces, scope operators and names in brackets. The
other marks of template arguments are only within brackets. -/
inductive IsBaseName : Bool → List Char → Prop
  | nil {nested : Bool} : IsBaseName nested []
  | word {nested : Bool} {w s : List Char} (hw : isIdentifier w = true)
      (hs : IsBaseName nested s) : IsBaseName nested (w ++ s)
  | space {nested : Bool} {s : List Char} (hs : IsBaseName nested s) : IsBaseName nested (' ' :: s)
  | scope {nested : Bool} {s : List Char} (hs : IsBaseName nested s) :
    IsBaseName nested (':' :: ':' :: s)
  | brackets {nested : Bool} {inner s : List Char} (hinner : IsBaseName true inner)
      (hs : IsBaseName nested s) : IsBaseName nested ('<' :: (inner ++ '>' :: s))
  | mark {c : Char} {s : List Char} (hc : c ∈ [',', '*', '&']) (hs : IsBaseName true s) :
    IsBaseName true (c :: s)

def isDropped (c : Char) : Bool := [' ', ':', '<', '>', '*'].contains c

def IsInner (nested : Bool) (s : List Char) (c : Char) : Prop :=
  (c = ',' ∨ c = '&') ∧ (nested = true ∨ '<' ∈ s)

theorem IsInner.mono (h : IsInner nested s c) (hst : s ⊆ t) : IsInner nested t c :=
  ⟨h.1, h.2.imp_right fun hm => hst hm⟩

theorem IsInner.behind_bracket {inner : Bool} (h : IsInner inner t c) :
    IsInner nested ('<' :: s) c :=
  ⟨h.1, .inr List.mem_cons_self⟩

theorem IsBaseName.mem (h : IsBaseName nested s) (hc : c ∈ s) :
    continuesIdentifier c = true ∨ isDropped c = true ∨ IsInner nested s c := by
  induction h with
  | nil => cases hc
  | word hw hs ih =>
    rcases List.mem_append.1 hc with hc | hc
    · exact .inl ((isIdentifier_iff.1 hw).2 c hc)
    · exact (ih hc).imp_right (.imp_right (IsInner.mono · (List.subset_append_right _ _)))
  | space hs ih =>
    rcases List.mem_cons.1 hc with rfl | hc
    · exact .inr (.inl rfl)
    · exact (ih hc).imp_right (.imp_right (IsInner.mono · (List.subset_cons_self _ _)))
  | scope hs ih =>
    rcases List.mem_cons.1 hc with rfl | hc
    · exact .inr (.inl rfl)
    rcases List.mem_cons.1 hc with rfl | hc
    · exact .inr (.inl rfl)
    · exact (ih hc).imp_right (.imp_right (IsInner.mono · fun _ hm => .tail _ (.tail _ hm)))
  | brackets hinner hs ihinner ih =>
    rcases List.mem_cons.1 hc with rfl | hc
    · exact .inr (.inl rfl)
    rcases List.mem_append.1 hc with hc | hc
    · exact (ihinner hc).imp_right (.imp_right .behind_bracket)
    rcases List.mem_cons.1 hc with rfl | hc
    · exact .inr (.inl rfl)
    · exact (ih hc).imp_right (.imp_right .behind_bracket)
  | mark hmark hs ih =>
    rcases List.mem_cons.1 hc with rfl | hc
    · simp only [List.mem_cons, List.not_mem_nil, or_false] at hmark
      rcases hmark with rfl | rfl | rfl
      · exact .inr (.inr ⟨.inl rfl, .inl rfl⟩)
      · exact .inr (.inl rfl)
      · exact .inr (.inr ⟨.inr rfl, .inl rfl⟩)
    · exact (ih hc).imp_right (.imp_right (IsInner.mono · (List.subset_cons_self _ _)))

theorem filter_of_isIdentifier {w : List Char} (hw : isIdentifier w = true) {p : Char → Bool}
    (hp : ∀ c, p c = false → isDropped c = true) : w.filter p = w := by
  rw [List.filter_eq_self]
  intro c hc
  by_contra h
  have hdropped := hp c (by simpa using h)
  have hcontinues := (isIdentifier_iff.1 hw).2 c hc
  simp only [isDropped, List.contains_iff_mem, List.mem_cons, List.not_mem_nil, or_false]
    at hdropped
  rcases hdropped with rfl | rfl | rfl | rfl | rfl <;> cases hcontinues

theorem IsBaseName.filter_space (h : IsBaseName nested s) :
    IsBaseName nested (s.filter (· != ' ')) := by
  induction h with
  | nil => exact .nil
  | word hw hs ih =>
    rw [List.filter_append, filter_of_isIdentifier hw (by simp [isDropped])]
    exact .word hw ih
  | space hs ih => exact ih
  | scope hs ih => exact .scope ih
  | brackets hinner hs ihinner ih =>
    rw [List.filter_cons_of_pos (by decide), List.filter_append,
      List.filter_cons_of_pos (by decide)]
    exact .brackets ihinner ih
  | mark hc hs ih =>
    rw [List.filter_cons_of_pos]
    · exact .mark hc ih
    · simp only [List.mem_cons, List.not_mem_nil, or_false] at hc
      rcases hc with rfl | rfl | rfl <;> rfl

theorem IsBaseName.replace_scope (h : IsBaseName nested s) (t : List Char) :
    replaceFrom [':', ':'] [] 0 (s ++ t) =
      s.filter (· != ':') ++ replaceFrom [':', ':'] [] 0 t := by
  induction h generalizing t with
  | nil => rfl
  | @word _ w s hw hs ih =>
    have hkept : w.filter (· != ':') = w := filter_of_isIdentifier hw (by simp [isDropped])
    have hcolon : ':' ∉ w := by
      rw [← hkept]
      simp
    rw [List.append_assoc, replaceFrom_append_of_not_mem hcolon, ih, List.filter_append, hkept,
      List.append_assoc]
  | space hs ih =>
    rw [List.cons_append, replaceFrom_cons_of_ne (by decide), ih]
    rfl
  | scope hs ih => exact ih t
  | brackets hinner hs ihinner ih =>
    rw [List.cons_append, replaceFrom_cons_of_ne (by decide), List.append_assoc, ihinner,
      List.cons_append, replaceFrom_cons_of_ne (by decide), ih]
    simp
  | @mark c s hc hs ih =>
    have hcolon : c ≠ ':' := by
      rintro rfl
      exact absurd hc (by decide)
    rw [List.cons_append, replaceFrom_cons_of_ne hcolon, ih,
      List.filter_cons_of_pos (by simpa using hcolon), List.cons_append]

theorem filter_identifierPart (name : String) :
    (identifierPart name).toList.filter (!isDropped ·) = name.toList.filter (!isDropped ·) := by
  rw [identifierPart, String.toList_ofList]
  apply filter_foldl_replaceAll
  simp [isDropped]

theorem identifierPart_of_isBaseName {name : String} (h : IsBaseName false name.toList) :
    (identifierPart name).toList = name.toList.filter (!isDropped ·) := by
  have hscope := h.filter_space.replace_scope []
  rw [List.append_nil, replaceFrom, List.append_nil] at hscope
  rw [identifierPart, String.toList_ofList]
  simp only [List.foldl_cons, List.foldl_nil]
  rw [show " " = String.singleton ' ' from rfl, show "<" = String.singleton '<' from rfl,
    show ">" = String.singleton '>' from rfl, show "*" = String.singleton '*' from rfl]
  simp only [replaceAll_singleton_empty]
  rw [replaceAll, show "::".toList = [':', ':'] from rfl, show "".toList = [] from rfl, hscope]
  simp only [List.filter_filter]
  apply List.filter_congr
  intro c _
  rw [Bool.eq_iff_iff]
  simp only [isDropped, Bool.and_eq_true, bne_iff_ne, Bool.not_eq_true', ← Bool.not_eq_true,
    List.contains_iff_mem, List.mem_cons, List.not_mem_nil, or_false]
  tauto

/-- Only word characters and what does not go into an identifier. -/
def IsPlain (s : String) : Prop := ∀ c ∈ s.toList, isWord c = true ∨ isDropped c = true

instance (s : String) : Decidable (IsPlain s) := List.decidableBAll _ s.toList

theorem IsPlain.append {s t : String} (hs : IsPlain s) (ht : IsPlain t) : IsPlain (s ++ t) := by
  intro c hc
  rw [String.toList_append] at hc
  exact (List.mem_append.1 hc).elim (hs c) (ht c)

end CppType

theorem Conventions.IsContainerName.isPlain {name : String}
    (h : Conventions.standard.IsContainerName name) : CppType.IsPlain name := by
  rcases h with h | ⟨e, ⟨-, hword⟩, h⟩
  · have hall : ∀ s ∈ Conventions.standard.stringSequences, CppType.IsPlain s := by decide
    exact hall name h
  · have he : CppType.IsPlain e := fun c hc => .inl (hword c hc)
    rcases h with ⟨-, rfl | rfl⟩ | rfl | rfl
    · exact .append (.append (by decide) he) (by decide)
    · exact .append (.append (by decide) he) (by decide)
    · exact .append (.append (by decide) he) (by decide)
    · exact .append (.append (by decide) he) (by decide)

namespace Catalog

variable {c : Catalog} {t : CppType} {name : String} {default : Attribute} {r : Conversion}

theorem mem_of_convert_parameter (hc : c.conventions = .standard)
    (ht : CppType.IsBaseName false t.name.toList)
    (h : c.convert t name .parameter default = .ok r) {ch : Char} (hch : ch ∈ t.name.toList) :
    Text.continuesIdentifier ch = true ∨ CppType.isDropped ch = true := by
  rcases ht.mem hch with hmem | hmem | ⟨hmark, hopen⟩
  · exact .inl hmem
  · exact .inr hmem
  rcases convert_eq_ok.1 h with hs | ⟨-, d, hd, -⟩
  · obtain ⟨-, hn⟩ := shapeRule_parameter_eq_some hs
    rw [hc] at hn
    rcases hmark with rfl | rfl
    · rcases hn.isPlain _ hch with hword | hword <;> cases hword
    · rcases hn.isPlain _ hch with hword | hword <;> cases hword
  · rcases hopen with hopen | hopen
    · cases hopen
    · exact absurd hopen (generalDeclaration_isDirect hd).noBracket

end Catalog

namespace FunctionDecl

open Text

/-- The names of the function, and of its class unless it is free, are identifiers, and the types of
its parameters have base names. -/
structure IsPlainlyNamed (f : FunctionDecl) : Prop where
  name : isIdentifier f.name.shown.toList = true
  owner : f.kind ≠ .free → isIdentifier f.owner.shown.toList = true
  parameters : ∀ p ∈ f.parameters, CppType.IsBaseName false p.type.name.toList

theorem isIdentifier_overloadName {name : String} {types : List CppType}
    (hname : isIdentifier name.toList = true)
    (htypes : ∀ t ∈ types, ∀ ch ∈ (CppType.identifierPart t.name).toList,
      continuesIdentifier ch = true) :
    isIdentifier (overloadName name types).toList = true := by
  rw [overloadName]
  split
  · rw [String.toList_append]
    exact isIdentifier_append hname (List.all_eq_true.1 rfl)
  · rw [String.toList_append]
    apply isIdentifier_join hname
    intro x hx ch hch
    obtain ⟨t, ht, rfl⟩ := List.mem_map.1 hx
    rw [String.toList_append] at hch
    rcases List.mem_append.1 hch with hch | hch
    · exact List.all_eq_true.1 (by rfl : "_".toList.all continuesIdentifier = true) ch hch
    · exact htypes t ht ch hch

theorem isIdentifier_composeWrapperName {name : String} {types : List CppType} {owner : Attribute}
    {isTemplate : Bool} (hname : isIdentifier (overloadName name types).toList = true)
    (howner : owner.isTruthy = true → isIdentifier owner.shown.toList = true) :
    isIdentifier (composeWrapperName name types owner isTemplate).toList = true := by
  have hqualified : isIdentifier
      (if owner.isTruthy then owner.shown ++ "_" ++ overloadName name types
        else overloadName name types).toList = true := by
    split
    · rename_i ho
      rw [String.append_assoc, String.toList_append]
      apply isIdentifier_append (howner ho)
      rw [String.toList_append]
      exact List.forall_mem_append.2 ⟨List.all_eq_true.1 rfl, (isIdentifier_iff.1 hname).2⟩
    · exact hname
  rw [composeWrapperName]
  split
  · rw [String.toList_append]
    exact isIdentifier_append hqualified (List.all_eq_true.1 rfl)
  · exact hqualified

end FunctionDecl

namespace Wrapper

open Text

variable {c : Catalog} {f : FunctionDecl} {isTemplate : Bool} {w : Wrapper}

/-- The name of a wrapper is an identifier. From a name nothing is dropped but spaces, scope
operators, brackets and stars, which all are dropped from a base name, and a parameter whose base
name has anything else that is of no identifier is not converted. -/
theorem isIdentifier_name_of_build (hc : c.conventions = .standard) (hf : f.IsPlainlyNamed)
    (h : build c f isTemplate = .ok w) :
    isIdentifier w.name.toList = true ∧
      (∀ name : String, (CppType.identifierPart name).toList.filter (!CppType.isDropped ·) =
          name.toList.filter (!CppType.isDropped ·) ∧
        (CppType.IsBaseName false name.toList →
          (CppType.identifierPart name).toList = name.toList.filter (!CppType.isDropped ·))) ∧
      ∀ (t : CppType) (name : String) (default : Attribute),
        CppType.IsBaseName false t.name.toList →
        (∃ ch ∈ t.name.toList, continuesIdentifier ch = false ∧ CppType.isDropped ch = false) →
        ∃ rejection, c.convert t name .parameter default = .error rejection := by
  refine ⟨?_, fun name => ⟨CppType.filter_identifierPart name,
    CppType.identifierPart_of_isBaseName⟩, ?_⟩
  · obtain ⟨parameters, result, hparameters, -, rfl⟩ := build_eq_ok.1 h
    apply FunctionDecl.isIdentifier_composeWrapperName
    · apply FunctionDecl.isIdentifier_overloadName hf.name
      intro t ht ch hch
      obtain ⟨p, hp, rfl⟩ := List.mem_map.1 ht
      obtain ⟨r, -, hr⟩ := exists_of_mem_forall₂ (Outcome.mapM_eq_ok.1 hparameters).flip hp
      have hbase := hf.parameters p hp
      rw [CppType.identifierPart_of_isBaseName hbase, List.mem_filter] at hch
      rcases Catalog.mem_of_convert_parameter hc hbase hr hch.1 with hmem | hmem
      · exact hmem
      · simp [hmem] at hch
    · intro ho
      split at ho
      · cases ho
      · rename_i hkind
        rw [if_neg hkind]
        exact hf.owner (by simpa using hkind)
  · rintro t name default ht ⟨ch, hch, hcontinues, hdropped⟩
    cases hr : c.convert t name .parameter default with
    | error rejection => exact ⟨rejection, rfl⟩
    | ok r =>
      rcases Catalog.mem_of_convert_parameter hc ht hr hch with hmem | hmem
      · rw [hcontinues] at hmem
        cases hmem
      · rw [hdropped] at hmem
        cases hmem

/-- A method that takes a list of pointers, and a number. -/
theorem isIdentifier_name_of_build_pointers :
    let f : FunctionDecl := {
      name := "addNodes", returnType := { name := "void" }, kind := .method, owner := "Scene"
      parameters := [
        { name := "nodes"
          type := { name := "PODVector<Node*>", isConst := true, isReference := true } },
        { name := "count", type := { name := "unsigned int" } }] }
    let c : Catalog := Catalog.build {} [{ name := "Node", isRefCounted := true }] [] []
    ∃ w, build c f false = .ok w ∧ w.name = "Scene_addNodes_PODVectorNode_unsignedint" ∧
      isIdentifier w.name.toList = true := by
  intro f c
  have hf : f.IsPlainlyNamed := by
    refine ⟨by decide, fun _ => by decide, ?_⟩
    rw [List.forall_mem_cons, List.forall_mem_singleton]
    constructor
    · exact .word (w := "PODVector".toList) rfl
        (.brackets (.word (w := "Node".toList) rfl (.mark (by decide) .nil)) .nil)
    · exact .word (w := "unsigned".toList) rfl (.space (.word (w := "int".toList) rfl .nil))
  have hname : (build c f false).toOption.map (·.name) =
      some "Scene_addNodes_PODVectorNode_unsignedint" := by decide +kernel
  obtain ⟨w, hw, hname⟩ := Option.map_eq_some_iff.1 hname
  have h := Outcome.toOption_eq_some.1 hw
  exact ⟨w, h, hname, (isIdentifier_name_of_build rfl hf h).1⟩

end Wrapper

end ScriptGlue

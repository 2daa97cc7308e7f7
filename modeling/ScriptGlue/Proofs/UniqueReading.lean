import Mathlib.Data.List.Chain
import ScriptGlue.Proofs.Classification
import ScriptGlue.Proofs.Identifier
import ScriptGlue.Proofs.Outcome
import ScriptGlue.Proofs.TypeName
import ScriptGlue.Registration

namespace ScriptGlue

namespace Text

variable {s t u v : List Char} {a : Char}

def IsUnlisted (s : List Char) : Prop := s.IsChain fun a b => a = ',' → b ≠ ' '

instance (s : List Char) : Decidable (IsUnlisted s) := inferInstanceAs (Decidable (s.IsChain _))

theorem IsUnlisted.append (hs : IsUnlisted s) (ht : IsUnlisted t) (h : ' ' ∉ t.head?) :
    IsUnlisted (s ++ t) := by
  apply List.IsChain.append hs ht
  rintro _ _ b hb _ rfl
  exact h hb

theorem append_separator_ne (hs : IsUnlisted (a :: s)) :
    a :: s ++ ',' :: ' ' :: u ≠ ',' :: ' ' :: v := by
  intro h
  rw [List.cons_append, List.cons.injEq] at h
  obtain ⟨rfl, h⟩ := h
  cases s with
  | nil => cases h
  | cons b s =>
    rw [List.cons_append, List.cons.injEq] at h
    exact (List.isChain_cons_cons.1 hs).1 rfl h.1

theorem append_separator_inj (hs : IsUnlisted s) (ht : IsUnlisted t)
    (h : s ++ ',' :: ' ' :: u = t ++ ',' :: ' ' :: v) : s = t ∧ u = v := by
  induction s generalizing t with
  | nil =>
    cases t with
    | nil => exact ⟨rfl, by simpa using h⟩
    | cons d t => exact absurd h.symm (append_separator_ne ht)
  | cons c s ih =>
    cases t with
    | nil => exact absurd h (append_separator_ne hs)
    | cons d t =>
      rw [List.cons_append, List.cons_append, List.cons.injEq] at h
      obtain ⟨rfl, h⟩ := h
      obtain ⟨rfl, huv⟩ := ih hs.tail ht.tail h
      exact ⟨rfl, huv⟩

theorem flatMap_separator_inj {xs ys : List (List Char)} (hx : ∀ x ∈ xs, IsUnlisted x)
    (hy : ∀ y ∈ ys, IsUnlisted y)
    (h : xs.flatMap (· ++ [',', ' ']) = ys.flatMap (· ++ [',', ' '])) : xs = ys := by
  induction xs generalizing ys with
  | nil =>
    cases ys with
    | nil => rfl
    | cons y ys => simp at h
  | cons x xs ih =>
    cases ys with
    | nil => simp at h
    | cons y ys =>
      rw [List.forall_mem_cons] at hx hy
      rw [List.flatMap_cons, List.flatMap_cons, List.append_assoc, List.append_assoc] at h
      obtain ⟨rfl, hrest⟩ := append_separator_inj hx.1 hy.1 h
      rw [ih hx.2 hy.2 hrest]

theorem intercalate_inj {xs ys : List (List Char)} (hx : ∀ x ∈ xs, x ≠ [] ∧ IsUnlisted x)
    (hy : ∀ y ∈ ys, y ≠ [] ∧ IsUnlisted y)
    (h : [',', ' '].intercalate xs = [',', ' '].intercalate ys) : xs = ys := by
  have hempty : xs = [] ↔ ys = [] := by
    rw [← intercalate_eq_nil fun x hm => (hx x hm).1, h, intercalate_eq_nil fun y hm => (hy y hm).1]
  by_cases hne : xs = []
  · rw [hne, hempty.1 hne]
  · apply flatMap_separator_inj (fun x hm => (hx x hm).2) (fun y hm => (hy y hm).2)
    rw [← intercalate_append hne, ← intercalate_append (mt hempty.2 hne), h]

end Text

open Text

namespace CppType

/-- A name in its normal form, with no parentheses in it. -/
structure IsReadable (t : CppType) : Prop where
  ne_empty : t.name ≠ ""
  normal : normalizeName t.name = t.name
  noOpening : '(' ∉ t.name.toList
  noClosing : ')' ∉ t.name.toList

namespace IsReadable

variable {t : CppType} {a : Char}

theorem isNormal (h : t.IsReadable) : IsNormal t.name.toList := by
  have hnormal := isNormal_normalize t.name.toList
  rw [← String.toList_ofList (l := normalize t.name.toList)] at hnormal
  rwa [← normalizeName, h.normal] at hnormal

theorem isUnlisted_name (h : t.IsReadable) : IsUnlisted t.name.toList := by
  apply h.isNormal.fits.imp
  rintro _ _ hfits rfl rfl
  exact absurd (hfits.2 rfl) (by decide)

theorem toList_spelling (t : CppType) : t.spelling.toList =
    (if t.isConst then "const ".toList else []) ++ t.name.toList ++ t.operators.toList := by
  rw [spelling, String.toList_append, String.toList_append]
  split <;> rfl

theorem mem_operators (t : CppType) : ∀ c ∈ t.operators.toList, c = '*' ∨ c = '&' := by
  rw [operators]
  split_ifs <;> simp

theorem isUnlisted_operators (t : CppType) : IsUnlisted t.operators.toList := by
  rw [operators]
  split_ifs <;> decide

theorem isUnlisted_spelling (h : t.IsReadable) : IsUnlisted t.spelling.toList := by
  have hconst : IsUnlisted (if t.isConst then "const ".toList else []) := by
    split <;> decide
  rw [toList_spelling]
  apply IsUnlisted.append
  · apply hconst.append h.isUnlisted_name
    intro hhead
    have hblank := h.isNormal.trimmed.1 ' ' hhead
    exact absurd hblank (by decide)
  · exact isUnlisted_operators t
  · intro hhead
    exact absurd (mem_operators t ' ' (List.mem_of_head? hhead)) (by decide)

theorem spelling_ne_nil (h : t.IsReadable) : t.spelling.toList ≠ [] := by
  rw [toList_spelling]
  intro hempty
  rw [List.append_eq_nil_iff, List.append_eq_nil_iff, String.toList_eq_nil_iff] at hempty
  exact h.ne_empty hempty.1.2

theorem not_mem_spelling (ha : a ∉ t.name.toList) (hconst : a ∉ "const ".toList)
    (hoperators : ¬(a = '*' ∨ a = '&')) : a ∉ t.spelling.toList := by
  rw [toList_spelling, List.mem_append, List.mem_append]
  rintro ((hm | hm) | hm)
  · split at hm
    · exact hconst hm
    · cases hm
  · exact ha hm
  · exact hoperators (mem_operators t a hm)

theorem opening_not_mem (h : t.IsReadable) : '(' ∉ t.spelling.toList :=
  not_mem_spelling h.noOpening (by decide) (by decide)

theorem closing_not_mem (h : t.IsReadable) : ')' ∉ t.spelling.toList :=
  not_mem_spelling h.noClosing (by decide) (by decide)

end IsReadable

end CppType

namespace FunctionDecl

variable {f g : FunctionDecl}

def parameterText (f : FunctionDecl) : String :=
  ", ".intercalate (f.parameters.map (·.type.spelling))

/-- The names are those of C++, the types are in their normal form, and the result is not spelled
like that of a static function. -/
structure IsReadable (f : FunctionDecl) : Prop where
  name : isIdentifier f.name.shown.toList = true
  owner : IsQualified f.owner.shown.toList
  returnType : f.returnType.IsReadable
  parameters : ∀ p ∈ f.parameters, p.type.IsReadable
  notStatic : ¬"static ".toList <+: f.returnType.spelling.toList

theorem toList_parameterText (f : FunctionDecl) : f.parameterText.toList =
    [',', ' '].intercalate (f.parameters.map (·.type.spelling.toList)) := by
  rw [parameterText, String.toList_intercalate, List.map_map]
  rfl

namespace IsReadable

theorem parameterText_inj (hf : f.IsReadable) (hg : g.IsReadable)
    (h : f.parameterText.toList = g.parameterText.toList) :
    f.parameters.map (·.type.spelling) = g.parameters.map (·.type.spelling) := by
  have hseparate {f : FunctionDecl} (hf : f.IsReadable) :
      ∀ x ∈ f.parameters.map (·.type.spelling.toList), x ≠ [] ∧ IsUnlisted x := by
    intro x hx
    obtain ⟨p, hp, rfl⟩ := List.mem_map.1 hx
    have htype := hf.parameters p hp
    exact ⟨htype.spelling_ne_nil, htype.isUnlisted_spelling⟩
  rw [toList_parameterText, toList_parameterText] at h
  have hlists := intercalate_inj (hseparate hf) (hseparate hg) h
  have hspellings := congrArg (List.map String.ofList) hlists
  rw [List.map_map, List.map_map] at hspellings
  simpa only [Function.comp_def, String.ofList_toList] using hspellings

theorem closing_not_mem_parameterText (hf : f.IsReadable) : ')' ∉ f.parameterText.toList := by
  rw [toList_parameterText]
  apply not_mem_intercalate (by decide)
  intro x hx
  obtain ⟨p, hp, rfl⟩ := List.mem_map.1 hx
  exact (hf.parameters p hp).closing_not_mem

theorem isQualified_name (hf : f.IsReadable) : IsQualified f.name.shown.toList :=
  fun c hc => .inl ((isIdentifier_iff.1 hf.name).2 c hc)

theorem isQualified_qualifiedName (hf : f.IsReadable) : IsQualified f.qualifiedName.toList := by
  rw [qualifiedName]
  split
  · rw [String.toList_append, String.toList_append]
    exact (hf.owner.append (by decide)).append hf.isQualified_name
  · exact hf.isQualified_name

end IsReadable

theorem toList_signature (f : FunctionDecl) : f.signature.toList =
    ((if f.kind == .static then "static ".toList else []) ++ f.returnType.spelling.toList ++
        ' ' :: f.qualifiedName.toList) ++
      '(' :: (f.parameterText.toList ++
        ')' :: if f.isConstMethod then " const".toList else []) := by
  rw [signature, ← parameterText]
  split <;> split <;> simp

theorem static_prefix_inj {b b' : Bool} {s t : List Char} (hs : ¬"static ".toList <+: s)
    (ht : ¬"static ".toList <+: t)
    (h : (if b then "static ".toList else []) ++ s = (if b' then "static ".toList else []) ++ t) :
    b = b' ∧ s = t := by
  cases b <;> cases b'
  · exact ⟨rfl, h⟩
  · exact absurd ⟨t, h.symm⟩ hs
  · exact absurd ⟨s, h⟩ ht
  · exact ⟨rfl, List.append_cancel_left h⟩

/-- The functions differ in nothing that a signature tells. -/
structure IsDeclaredAlike (f g : FunctionDecl) : Prop where
  result : f.returnType.spelling = g.returnType.spelling
  name : f.qualifiedName = g.qualifiedName
  parameters : f.parameters.map (·.type.spelling) = g.parameters.map (·.type.spelling)
  static : f.kind = .static ↔ g.kind = .static
  const : f.isConstMethod = g.isConstMethod

theorem signature_inj (hf : f.IsReadable) (hg : g.IsReadable) (h : f.signature = g.signature) :
    IsDeclaredAlike f g := by
  rw [← String.toList_inj, toList_signature, toList_signature] at h
  have hopening {f : FunctionDecl} (hf : f.IsReadable) :
      '(' ∉ (if f.kind == .static then "static ".toList else []) ++
        f.returnType.spelling.toList ++ ' ' :: f.qualifiedName.toList := by
    rw [List.mem_append, List.mem_append, List.mem_cons]
    rintro ((hm | hm) | hm | hm)
    · split at hm
      · exact absurd hm (by decide)
      · cases hm
    · exact hf.returnType.opening_not_mem hm
    · exact absurd hm (by decide)
    · exact hf.isQualified_qualifiedName.not_mem rfl (by decide) hm
  obtain ⟨hhead, hparameters⟩ := append_cons_inj (hopening hf) (hopening hg) h
  obtain ⟨hparameters, hconst⟩ := append_cons_inj hf.closing_not_mem_parameterText
    hg.closing_not_mem_parameterText hparameters
  obtain ⟨hresult, hname⟩ := append_cons_inj_last
    (hf.isQualified_qualifiedName.not_mem rfl (by decide))
    (hg.isQualified_qualifiedName.not_mem rfl (by decide)) hhead
  obtain ⟨hstatic, hresult⟩ := static_prefix_inj hf.notStatic hg.notStatic hresult
  refine ⟨String.toList_inj.1 hresult, String.toList_inj.1 hname,
    hf.parameterText_inj hg hparameters, ?_, ?_⟩
  · rw [← beq_iff_eq, hstatic, beq_iff_eq]
  · revert hconst
    cases f.isConstMethod <;> cases g.isConstMethod <;> simp

section Registration

variable {isTemplate isTemplate' : Bool}

/-- The macro that takes the function. -/
def registrationMacro (f : FunctionDecl) : String :=
  if f.kind == .method then "asMETHODPR" else "asFUNCTIONPR"

/-- What is printed first: the class of a method, or the callee. -/
def registrationTarget (f : FunctionDecl) (isTemplate : Bool) : String :=
  if f.kind == .method then if isTemplate then "T" else f.owner.shown else f.callableName

theorem specializedParameters_of_nil (h : f.specialization.entries = []) :
    f.specializedParameters = .ok ("(" ++ f.parameterText ++ ")") := by
  have happly (s : String) : Specialization.apply f.specialization s = .ok s := by
    rw [Specialization.apply, h]
    rfl
  have hall : f.parameters.mapM (fun p =>
      Specialization.apply f.specialization p.type.spelling) =
      .ok (f.parameters.map (·.type.spelling)) := by
    rw [Outcome.mapM_eq_ok, List.forall₂_map_right_iff, List.forall₂_same]
    exact fun p _ => happly p.type.spelling
  rw [specializedParameters, hall]
  rfl

def methodName (f : FunctionDecl) : List Char :=
  if f.kind == .method then f.name.shown.toList ++ [',', ' '] else []

theorem registrationExpression_of_nil (h : f.specialization.entries = []) (isTemplate : Bool) :
    ∃ e, f.registrationExpression isTemplate = .ok e ∧ e.toList =
      f.registrationMacro.toList ++ '(' :: ((f.registrationTarget isTemplate).toList ++
        ',' :: ' ' :: (f.methodName ++ '(' :: (f.parameterText.toList ++
          ')' :: ((if f.isConstMethod then " const".toList else []) ++
            ',' :: ' ' :: (f.returnType.spelling.toList ++ [')']))))) := by
  rw [registrationExpression, specializedParameters_of_nil h, registrationMacro,
    registrationTarget, methodName, isConstMethod]
  cases hmethod : f.kind == .method with
  | true =>
    refine ⟨_, rfl, ?_⟩
    cases f.isConst <;> simp
  | false =>
    refine ⟨_, rfl, ?_⟩
    simp

theorem IsReadable.colon_not_mem_name (hf : f.IsReadable) : ':' ∉ f.name.shown.toList := by
  intro hm
  have hcontinues := (isIdentifier_iff.1 hf.name).2 ':' hm
  cases hcontinues

theorem IsReadable.takeWhile_callableName (hf : f.IsReadable) :
    f.callableName.toList.reverse.takeWhile (· != ':') = f.name.shown.toList.reverse := by
  have hname : ∀ c ∈ f.name.shown.toList.reverse, (c != ':') = true := by
    intro c hc
    rw [bne_iff_ne]
    rintro rfl
    exact hf.colon_not_mem_name (List.mem_reverse.1 hc)
  have hwhole : f.name.shown.toList.reverse.takeWhile (· != ':') = f.name.shown.toList.reverse :=
    List.takeWhile_eq_self_iff.2 hname
  rw [callableName, qualifiedName]
  split
  · split
    · rw [String.toList_append, List.reverse_append, List.takeWhile_append_of_pos hname,
        String.toList_append, List.reverse_append]
      exact List.append_nil _
    · exact hwhole
  · exact hwhole

theorem IsReadable.comma_not_mem_registrationTarget (hf : f.IsReadable) :
    ',' ∉ (f.registrationTarget isTemplate).toList := by
  have hqualified : IsQualified (f.registrationTarget isTemplate).toList := by
    rw [registrationTarget, callableName]
    split_ifs
    · decide
    · exact hf.owner
    · exact hf.isQualified_qualifiedName
    · exact hf.isQualified_name
  exact hqualified.not_mem rfl (by decide)

theorem IsReadable.opening_not_mem_methodName (hf : f.IsReadable) : '(' ∉ f.methodName := by
  rw [methodName]
  split
  · rw [List.mem_append]
    rintro (hm | hm)
    · exact hf.isQualified_name.not_mem rfl (by decide) hm
    · exact absurd hm (by decide)
  · exact List.not_mem_nil

theorem opening_not_mem_registrationMacro (f : FunctionDecl) :
    '(' ∉ f.registrationMacro.toList := by
  rw [registrationMacro]
  split <;> decide

theorem registrationMacro_inj (h : f.registrationMacro = g.registrationMacro) :
    (f.kind == .method) = (g.kind == .method) := by
  rw [registrationMacro, registrationMacro] at h
  cases hf : f.kind == .method <;> cases hg : g.kind == .method
  · rfl
  · rw [hf, hg] at h
    exact absurd h (by decide)
  · rw [hf, hg] at h
    exact absurd h (by decide)
  · rfl

/-- The functions differ in nothing that their registration expressions tell, for the template
variant or not. -/
structure IsRegisteredAlike (f g : FunctionDecl) (isTemplate isTemplate' : Bool) : Prop where
  macroName : f.registrationMacro = g.registrationMacro
  target : f.registrationTarget isTemplate = g.registrationTarget isTemplate'
  name : f.name.shown = g.name.shown
  parameters : f.parameters.map (·.type.spelling) = g.parameters.map (·.type.spelling)
  result : f.returnType.spelling = g.returnType.spelling
  const : f.kind = .method → f.isConst = g.isConst

theorem registrationExpression_inj (hf : f.IsReadable) (hg : g.IsReadable)
    (hnone : f.specialization.entries = []) (hnone' : g.specialization.entries = [])
    (h : f.registrationExpression isTemplate = g.registrationExpression isTemplate') :
    IsRegisteredAlike f g isTemplate isTemplate' := by
  obtain ⟨e, he, hlist⟩ := registrationExpression_of_nil hnone isTemplate
  obtain ⟨e', he', hlist'⟩ := registrationExpression_of_nil hnone' isTemplate'
  rw [he, he', Except.ok.injEq] at h
  rw [h, hlist'] at hlist
  obtain ⟨hmacroName, hlist⟩ := append_cons_inj (opening_not_mem_registrationMacro g)
    (opening_not_mem_registrationMacro f) hlist
  obtain ⟨htarget, hlist⟩ := append_cons_inj hg.comma_not_mem_registrationTarget
    hf.comma_not_mem_registrationTarget hlist
  obtain ⟨hmethod, hlist⟩ := append_cons_inj hg.opening_not_mem_methodName
    hf.opening_not_mem_methodName (List.cons.inj hlist).2
  obtain ⟨hparameters, hlist⟩ := append_cons_inj hg.closing_not_mem_parameterText
    hf.closing_not_mem_parameterText hlist
  obtain ⟨hconst, hlist⟩ := append_cons_inj (by split <;> decide) (by split <;> decide) hlist
  have hresult := List.append_cancel_right (List.cons.inj hlist).2
  have hmacroName := String.toList_inj.1 hmacroName.symm
  have htarget := String.toList_inj.1 htarget.symm
  have hkind := registrationMacro_inj hmacroName
  refine ⟨hmacroName, htarget, ?_, hf.parameterText_inj hg hparameters.symm,
    String.toList_inj.1 hresult.symm, ?_⟩
  · rw [methodName, methodName, ← hkind] at hmethod
    rw [registrationTarget, registrationTarget, ← hkind] at htarget
    cases hcase : f.kind == .method with
    | true =>
      rw [hcase] at hmethod
      exact String.toList_inj.1 (List.append_cancel_right hmethod).symm
    | false =>
      rw [hcase, if_neg Bool.false_ne_true, if_neg Bool.false_ne_true] at htarget
      have hname := hf.takeWhile_callableName
      rw [htarget, hg.takeWhile_callableName, List.reverse_inj] at hname
      exact String.toList_inj.1 hname.symm
  · intro hcase
    have hcase : (f.kind == .method) = true := beq_iff_eq.2 hcase
    rw [isConstMethod, isConstMethod, ← hkind, hcase] at hconst
    revert hconst
    cases f.isConst <;> cases g.isConst <;> simp

/-- Overloads are told apart by their texts: by the signature, and by the registration expression
where nothing is put for the parameters of a class template. -/
theorem IsReadable.isAlike_of_text (hf : f.IsReadable) (hg : g.IsReadable) :
    (f.signature = g.signature → IsDeclaredAlike f g) ∧
      ∀ b b' : Bool, f.specialization.entries = [] → g.specialization.entries = [] →
        f.registrationExpression b = g.registrationExpression b' → IsRegisteredAlike f g b b' :=
  ⟨signature_inj hf hg, fun _ _ => registrationExpression_inj hf hg⟩

/-- The same method, found in two places. -/
theorem IsReadable.isAlike_of_text_places :
    let f : FunctionDecl := {
      name := "setNames", returnType := { name := "void" }
      kind := .method, owner := "Urho3D::Scene"
      parameters := [
        { name := "names"
          type := { name := "HashMap<String,int>", isConst := true, isReference := true } },
        { name := "count", type := { name := "unsigned int" } }]
      isConst := true }
    let g : FunctionDecl := { f with location := "Scene/Scene.h:12" }
    IsDeclaredAlike f g ∧ IsRegisteredAlike f g false false := by
  intro f g
  have htypes : ∀ t ∈ f.returnType :: f.parameters.map (·.type), t.IsReadable := by
    have hnames : ∀ t ∈ f.returnType :: f.parameters.map (·.type), t.name ≠ "" ∧
        CppType.normalizeName t.name = t.name ∧ '(' ∉ t.name.toList ∧ ')' ∉ t.name.toList := by
      decide
    intro t ht
    obtain ⟨hempty, hnormal, hopening, hclosing⟩ := hnames t ht
    exact ⟨hempty, hnormal, hopening, hclosing⟩
  obtain ⟨hresult, hparameters⟩ := List.forall_mem_cons.1 htypes
  have hf : f.IsReadable := ⟨by decide, by decide, hresult,
    fun p hp => hparameters _ (List.mem_map_of_mem hp), by decide⟩
  have hg : g.IsReadable := ⟨hf.name, hf.owner, hf.returnType, hf.parameters, hf.notStatic⟩
  obtain ⟨hdeclared, hregistered⟩ := hf.isAlike_of_text hg
  exact ⟨hdeclared rfl, hregistered false false rfl rfl rfl⟩

end Registration

end FunctionDecl

end ScriptGlue

import ScriptGlue.Proofs.StringLiteral
import ScriptGlue.Proofs.WellTyped

namespace ScriptGlue

namespace Text

/-- No directive can begin in the text, and only line feeds end its lines. -/
def IsInert (s : String) : Prop := ∀ c ∈ s.toList, c ≠ '#' ∧ c ≠ '\r'

instance (s : String) : Decidable (IsInert s) := inferInstanceAs (Decidable (∀ c ∈ s.toList, _))

structure IsInertLine (s : String) : Prop where
  inert : IsInert s
  oneLine : '\n' ∉ s.toList

instance (s : String) : Decidable (IsInertLine s) :=
  decidable_of_iff (IsInert s ∧ '\n' ∉ s.toList)
    ⟨fun ⟨hi, hl⟩ => ⟨hi, hl⟩, fun ⟨hi, hl⟩ => ⟨hi, hl⟩⟩

variable {s t : String} {ss : List String}

@[simp] theorem isInert_append : IsInert (s ++ t) ↔ IsInert s ∧ IsInert t := by
  rw [IsInert, String.toList_append, List.forall_mem_append]
  rfl

theorem IsInert.append (hs : IsInert s) (ht : IsInert t) : IsInert (s ++ t) :=
  isInert_append.2 ⟨hs, ht⟩

theorem IsInert.of_subset (h : IsInert s) (ht : t.toList ⊆ s.toList) : IsInert t :=
  fun c hc => h c (ht hc)

theorem IsInertLine.of_subset (h : IsInertLine s) (ht : t.toList ⊆ s.toList) : IsInertLine t :=
  ⟨h.inert.of_subset ht, fun hc => h.oneLine (ht hc)⟩

theorem IsInert.join (h : ∀ s ∈ ss, IsInert s) : IsInert (String.join ss) := by
  intro c hc
  rw [String.toList_join, List.mem_flatMap] at hc
  obtain ⟨s, hs, hc⟩ := hc
  exact h s hs c hc

theorem IsInert.intercalate (hs : IsInert s) (h : ∀ t ∈ ss, IsInert t) :
    IsInert (s.intercalate ss) := by
  cases ss with
  | nil => exact fun c hc => absurd hc (List.not_mem_nil)
  | cons t ts =>
    induction ts generalizing t with
    | nil =>
      rw [String.intercalate_singleton]
      exact h t List.mem_cons_self
    | cons u us ih =>
      obtain ⟨ht, hrest⟩ := List.forall_mem_cons.1 h
      rw [String.intercalate_cons_cons]
      exact (ht.append hs).append (ih u hrest)

def IsWhole (s : String) : Prop := s.toList.getLast? = none ∨ s.toList.getLast? = some '\n'

instance (s : String) : Decidable (IsWhole s) := inferInstanceAs (Decidable (_ ∨ _))

theorem IsWhole.ending (s : String) (h : t.toList.getLast? = some '\n') : IsWhole (s ++ t) := by
  refine .inr ?_
  rw [String.toList_append, List.getLast?_append, h]
  rfl

theorem IsWhole.append (hs : IsWhole s) (ht : IsWhole t) : IsWhole (s ++ t) := by
  rcases ht with ht | ht
  · rw [IsWhole, String.toList_append, List.getLast?_append, ht]
    exact hs
  · exact .ending s ht

theorem IsWhole.join (h : ∀ s ∈ ss, IsWhole s) : IsWhole (String.join ss) := by
  induction ss with
  | nil => decide
  | cons s ss ih =>
    obtain ⟨hs, hss⟩ := List.forall_mem_cons.1 h
    rw [String.join_cons]
    exact hs.append (ih hss)

theorem IsInert.ite {c : Prop} [Decidable c] (hs : IsInert s) (ht : IsInert t) :
    IsInert (if c then s else t) := by
  split
  · exact hs
  · exact ht

end Text

open Text

namespace CppType

theorem operators_isInert (t : CppType) : IsInert t.operators := by
  rw [operators]
  exact (IsInert.ite (by decide) (IsInert.ite (by decide) (by decide))).append
    (IsInert.ite (by decide) (IsInert.ite (by decide) (by decide)))

theorem spelling_isInert {t : CppType} (h : IsInert t.name) : IsInert t.spelling :=
  ((IsInert.ite (by decide) (by decide)).append h).append t.operators_isInert

theorem replaceFrom_subset (old : List Char) (skip : Nat) (s : List Char) :
    replaceFrom old [] skip s ⊆ s := by
  fun_induction replaceFrom old [] skip s with
  | case1 => exact List.Subset.refl _
  | case2 skip c cs ih => exact List.subset_cons_of_subset c ih
  | case3 c cs h ih => exact List.subset_cons_of_subset c ih
  | case4 c cs h ih => exact List.cons_subset_cons c ih

theorem identifierPart_isInert {name : String} (h : IsInert name) :
    IsInert (identifierPart name) := by
  refine h.of_subset ?_
  rw [identifierPart, String.toList_ofList]
  generalize [" ", "::", "<", ">", "*"] = removed
  generalize name.toList = s
  induction removed generalizing s with
  | nil => exact List.Subset.refl s
  | cons t ts ih => exact List.Subset.trans (ih _) (replaceFrom_subset _ _ _)

end CppType

theorem Primitive.scriptName_isInert {name : String} (h : IsInert name) :
    IsInert (scriptName name) :=
  scriptName_rel (P := fun name s => IsInert name → IsInert s) (by decide) (fun _ h => h) name h

theorem Shape.IsElement.isInert {e : String} (h : IsElement e) : IsInert e := by
  intro c hc
  have hword := h.2 c hc
  constructor
  · rintro rfl
    revert hword
    decide
  · rintro rfl
    revert hword
    decide

namespace DefaultValue

theorem declarationText_isInert {value : String} (h : IsInert value) :
    IsInert (declarationText value) := by
  have hscript : IsInert (toScript value) :=
    toScript_rel (P := fun value s => IsInert value → IsInert s) (by decide) (fun _ h => h) value h
  intro c hc
  rw [toList_declarationText, StringLiteral.quoteEscaped, List.mem_flatMap] at hc
  obtain ⟨d, hd, hc⟩ := hc
  split at hc
  · exact (by decide : ∀ c ∈ ['\\', '"'], c ≠ '#' ∧ c ≠ '\r') c hc
  · rw [List.mem_singleton.1 hc]
    exact hscript d hd

theorem suffix_isInert {default : Attribute} (h : IsInert default.shown) :
    IsInert (suffix default) := by
  rw [suffix]
  exact .ite ((by decide : IsInert " = ").append (declarationText_isInert h)) (by decide)

end DefaultValue

/-- Nothing that is generated for the conversion has a directive. -/
structure Conversion.IsInert (r : Conversion) : Prop where
  declaration : Text.IsInert r.declaration
  nativeOverride : ∀ s, r.nativeOverride? = some s → Text.IsInert s
  glue : ∀ s, r.glue? = some s → Text.IsInert s

/-- The conventions put no directive into the generated code. -/
structure Conventions.IsInert (c : Conventions) : Prop where
  scriptArray : Text.IsInertLine c.scriptArray
  convertedSuffix : Text.IsInertLine c.convertedSuffix
  guards : ∀ g ∈ c.guards, Text.IsInertLine g.symbol

namespace Catalog

variable {c : Catalog} {t : CppType} {name : String} {usage : Usage} {default : Attribute}
  {s : Shape} {r : Conversion} {d : String}

theorem element_isInert (c : Conventions) (t : CppType) :
    ∀ e, (Shape.classify c t).element? = some e → Text.IsInert e :=
  fun _ he => (Shape.isElement_of_element? he).isInert

theorem arrayResult_isInert (hc : c.conventions.IsInert) {element call : String}
    (he : Text.IsInert element) (hcall : Text.IsInert call) :
    (c.arrayResult element call).IsInert where
  declaration := by simp +decide [arrayResult, he]
  nativeOverride := by
    rintro _ ⟨⟩
    exact hc.scriptArray.inert
  glue := by
    rintro _ ⟨⟩
    simp +decide [he, hcall]

theorem arrayParameter_isInert (hc : c.conventions.IsInert) (ht : Text.IsInert t.name)
    (hn : Text.IsInert name) {declaration call : String} (hd : Text.IsInert declaration)
    (hcall : Text.IsInert call) : (c.arrayParameter t name declaration call).IsInert where
  declaration := hd
  nativeOverride := by
    rintro _ ⟨⟩
    simp +decide [convertedName, hn, hc.scriptArray.inert, hc.convertedSuffix.inert]
  glue := by
    rintro _ ⟨⟩
    simp +decide [convertedName, ht, hn, hcall, hc.convertedSuffix.inert]

theorem resultRule_isInert (hc : c.conventions.IsInert)
    (hs : ∀ e, s.element? = some e → Text.IsInert e) (h : c.resultRule t s = .ok (some r)) :
    r.IsInert := by
  cases s with
  | void =>
    simp only [resultRule, Except.ok.injEq, ite_eq_iff, reduceCtorEq, and_false, false_or,
      Option.some.injEq] at h
    rw [← h.2]
    exact ⟨by decide, by simp, by simp⟩
  | stringSequence =>
    simp only [resultRule, Except.ok.injEq, ite_eq_iff, reduceCtorEq, and_false, false_or,
      Option.some.injEq] at h
    rw [← h.2]
    exact arrayResult_isInert hc (by decide) (by decide)
  | context => cases h
  | singleOwner e =>
    obtain ⟨u, -, h⟩ := Outcome.bind_eq_ok.1 h
    cases h
    have he := hs e rfl
    refine ⟨by simp +decide [Primitive.scriptName_isInert he], ?_, ?_⟩
    · rintro _ ⟨⟩
      simp +decide [he]
    · rintro _ ⟨⟩
      decide
  | singleOwnerSequence e =>
    obtain ⟨u, -, h⟩ := Outcome.bind_eq_ok.1 h
    cases h
    exact arrayResult_isInert hc (by simp +decide [Primitive.scriptName_isInert (hs e rfl)])
      (by decide)
  | pointerSequence e =>
    cases h
    exact arrayResult_isInert hc (by simp +decide [Primitive.scriptName_isInert (hs e rfl)])
      (by decide)
  | valueSequence e =>
    simp only [resultRule, Except.ok.injEq, ite_eq_iff, reduceCtorEq, and_false, or_false,
      Option.some.injEq] at h
    rw [← h.2]
    exact arrayResult_isInert hc (Primitive.scriptName_isInert (hs e rfl)) (by decide)
  | plain => cases h

theorem parameterRule_isInert (hc : c.conventions.IsInert) (ht : Text.IsInert t.name)
    (hn : Text.IsInert name) (hs : ∀ e, s.element? = some e → Text.IsInert e)
    (h : c.parameterRule t name default s = .ok (some r)) : r.IsInert := by
  cases s with
  | context => cases h
  | stringSequence =>
    simp only [parameterRule, Except.ok.injEq, ite_eq_iff, reduceCtorEq, and_false, or_false,
      Option.some.injEq] at h
    rw [← h.2]
    refine arrayParameter_isInert hc ht hn ?_ (by decide)
    exact (by decide : Text.IsInert "Array<String>@+").append (.ite (by decide) (by decide))
  | singleOwnerSequence e =>
    obtain ⟨-, h⟩ := Outcome.ite_none_eq_some.1 h
    obtain ⟨u, -, h⟩ := Outcome.bind_eq_ok.1 h
    obtain ⟨v, -, h⟩ := Outcome.bind_eq_ok.1 h
    cases h
    have he := hs e rfl
    exact arrayParameter_isInert hc ht hn (by simp +decide [Primitive.scriptName_isInert he])
      (by simp +decide [he])
  | pointerSequence e =>
    obtain ⟨-, h⟩ := Outcome.ite_none_eq_some.1 h
    obtain ⟨v, -, h⟩ := Outcome.bind_eq_ok.1 h
    cases h
    have he := hs e rfl
    exact arrayParameter_isInert hc ht hn (by simp +decide [Primitive.scriptName_isInert he])
      (by simp +decide [he])
  | valueSequence e =>
    obtain ⟨-, h⟩ := Outcome.ite_none_eq_some.1 h
    obtain ⟨v, -, h⟩ := Outcome.bind_eq_ok.1 h
    cases h
    have he := hs e rfl
    exact arrayParameter_isInert hc ht hn (by simp +decide [Primitive.scriptName_isInert he])
      (by simp +decide [he])
  | void => cases h
  | singleOwner e => cases h
  | plain => cases h

theorem typeText_isInert (ht : Text.IsInert t.name) (h : c.typeText t usage = .ok d) :
    Text.IsInert d := by
  have hname := Primitive.scriptName_isInert ht
  rw [typeText] at h
  split at h
  · cases h
    simp +decide [hname]
  · obtain ⟨d', hd', rfl⟩ := Outcome.map_eq_ok.1 h
    have hd : Text.IsInert d' := by
      rw [referenceOrHandle] at hd'
      split at hd'
      · cases hd'
        simp +decide [hname]
      split at hd'
      · split at hd'
        · cases hd'
          simp +decide [hname]
        · cases hd'
      · cases hd'
        exact hname
    exact .ite ((by decide : Text.IsInert "const ").append hd) hd

theorem generalDeclaration_isInert (ht : Text.IsInert t.name) (hd : Text.IsInert default.shown)
    (h : c.generalDeclaration t usage default = .ok d) : Text.IsInert d := by
  obtain ⟨-, -, -, -, text, htext, rfl⟩ := generalDeclaration_eq_ok.1 h
  exact (typeText_isInert ht htext).append (DefaultValue.suffix_isInert hd)

/-- A conversion is made of the conventions, of the name and the type, and of the default value. -/
theorem convert_isInert (hc : c.conventions.IsInert) (ht : Text.IsInert t.name)
    (hn : Text.IsInert name) (hd : Text.IsInert default.shown)
    (h : c.convert t name usage default = .ok r) : r.IsInert := by
  rcases convert_eq_ok.1 h with hs | ⟨-, d, hg, rfl⟩
  · obtain ⟨u, -, hrule⟩ := Outcome.bind_eq_ok.1 hs
    cases usage with
    | result => exact resultRule_isInert hc (element_isInert _ _) hrule
    | parameter => exact parameterRule_isInert hc ht hn (element_isInert _ _) hrule
  · exact ⟨generalDeclaration_isInert ht hd hg, by simp, by simp⟩

theorem scriptDeclaration_isInert (ht : Text.IsInert t.name)
    (h : c.scriptDeclaration t usage = .ok d) : Text.IsInert d := by
  obtain ⟨u, -, hg⟩ := Outcome.bind_eq_ok.1 h
  exact generalDeclaration_isInert ht (by decide) hg

end Catalog

namespace Specialization

/-- What the replacement puts in has no directive; the text of the replacement may still have one
that an escape stands for. -/
def IsInert (e : Key × Attribute) : Prop :=
  ∀ concrete pieces, e.2 = .string concrete → Replacement.read concrete = .ok pieces →
    ∀ c, ReplacementPiece.character c ∈ pieces → c ≠ '#' ∧ c ≠ '\r'

variable {param : List Char} {pieces : List ReplacementPiece} {a : Char}

theorem mem_expand {matched : List Char} (h : a ∈ Replacement.expand matched pieces) :
    a ∈ matched ∨ ReplacementPiece.character a ∈ pieces := by
  rw [Replacement.expand, List.mem_flatMap] at h
  obtain ⟨p, hp, ha⟩ := h
  cases p with
  | character c =>
    rw [List.mem_singleton.1 ha]
    exact .inr hp
  | wholeMatch => exact .inl ha

theorem mem_replaceWord {skip : Nat} {left : Option Char} {s : List Char}
    (h : a ∈ replaceWord param pieces skip left s) :
    a ∈ s ∨ ReplacementPiece.character a ∈ pieces := by
  fun_induction replaceWord param pieces skip left s with
  | case1 skip left c cs ih => exact (ih h).imp_left (List.mem_cons_of_mem c)
  | case2 skip left hempty => exact .inr ((mem_expand h).resolve_left (List.not_mem_nil))
  | case3 => cases h
  | case4 left c cs hparam ih =>
    subst hparam
    rcases List.mem_append.1 h with h | h
    · split at h
      · exact .inr ((mem_expand h).resolve_left (List.not_mem_nil))
      · cases h
    rcases List.mem_cons.1 h with rfl | h
    · exact .inl List.mem_cons_self
    · exact (ih h).imp_left (List.mem_cons_of_mem c)
  | case5 left c cs p ps hparam rest hprefix _ ih =>
    subst hparam
    rcases List.mem_append.1 h with h | h
    · refine (mem_expand h).imp_left fun hm => ?_
      rw [← List.isPrefixOf?_eq_some_iff_append_eq.1 hprefix]
      exact List.mem_append_left rest hm
    · exact (ih h).imp_left (List.mem_cons_of_mem c)
  | case6 left c cs p ps hparam rest _ _ ih =>
    subst hparam
    rcases List.mem_cons.1 h with rfl | h
    · exact .inl List.mem_cons_self
    · exact (ih h).imp_left (List.mem_cons_of_mem c)
  | case7 left c cs p ps hparam _ ih =>
    subst hparam
    rcases List.mem_cons.1 h with rfl | h
    · exact .inl List.mem_cons_self
    · exact (ih h).imp_left (List.mem_cons_of_mem c)

theorem step_isInert {e : Key × Attribute} {spelling s : String} (he : IsInert e)
    (hspelling : Text.IsInert spelling) (h : step spelling e = .ok s) : Text.IsInert s := by
  unfold step at h
  split at h
  · rename_i concrete
    obtain ⟨pieces, hp, h⟩ := Outcome.bind_eq_ok.1 h
    cases h
    intro c hc
    rw [String.toList_ofList] at hc
    rcases mem_replaceWord hc with hc | hc
    · exact hspelling c hc
    · exact he concrete pieces rfl hp c hc
  · cases h

theorem apply_isInert {specialization : Table Key Attribute} {spelling s : String}
    (hspec : ∀ e ∈ specialization.entries, IsInert e) (hspelling : Text.IsInert spelling)
    (h : apply specialization spelling = .ok s) : Text.IsInert s := by
  rw [apply] at h
  generalize specialization.entries = es at hspec h
  induction es generalizing spelling with
  | nil =>
    cases h
    exact hspelling
  | cons e es ih =>
    obtain ⟨he, hes⟩ := List.forall_mem_cons.1 hspec
    rw [List.foldlM_cons] at h
    obtain ⟨s₁, h₁, h⟩ := Outcome.bind_eq_ok.1 h
    exact ih (step_isInert he hspelling h₁) hes h

theorem isInert_of_isPlain {e : Key × Attribute} (hplain : isPlain e = true)
    (he : Text.IsInert e.2.shown) : IsInert e := by
  intro concrete pieces hconcrete hread c hc
  obtain ⟨k, v⟩ := e
  obtain rfl : v = .string concrete := hconcrete
  have hbackslash : '\\' ∉ concrete.toList := by
    unfold isPlain at hplain
    split at hplain
    · rename_i heq
      cases heq
      simpa using hplain
    · cases hplain
  rw [Replacement.read, Replacement.readFrom_eq hbackslash] at hread
  cases hread
  obtain ⟨d, hd, hcd⟩ := List.mem_map.1 hc
  cases hcd
  exact he c hd

end Specialization

structure Parameter.IsInert (p : Parameter) : Prop where
  name : Text.IsInertLine p.name.shown
  type : Text.IsInertLine p.type.name
  default : Text.IsInertLine p.default.shown

structure FunctionDecl.IsInert (f : FunctionDecl) : Prop where
  name : Text.IsInertLine f.name.shown
  returnType : Text.IsInertLine f.returnType.name
  parameters : ∀ p ∈ f.parameters, p.IsInert
  owner : Text.IsInertLine f.owner.shown
  header : Text.IsInertLine f.header.shown
  location : Text.IsInertLine f.location.shown
  specialization : ∀ e ∈ f.specialization.entries, Text.IsInertLine e.2.shown

structure FieldDecl.IsInert (f : FieldDecl) : Prop where
  name : Text.IsInertLine f.name.shown
  type : Text.IsInertLine f.type.name
  owner : Text.IsInertLine f.owner.shown
  header : Text.IsInertLine f.header.shown

structure GlueOptions.IsInert (o : GlueOptions) : Prop where
  namespaceName : Text.IsInertLine o.namespaceName.shown
  registerFunction : Text.IsInertLine o.registerFunction.shown
  includes : ∀ h ∈ o.includes, Text.IsInertLine h.shown

structure Inputs.IsInert (i : Inputs) : Prop where
  conventions : i.catalog.conventions.IsInert
  functions : ∀ f ∈ i.functions, f.IsInert
  fields : ∀ f ∈ i.fields, f.IsInert

instance (c : Conventions) : Decidable c.IsInert :=
  decidable_of_iff (Text.IsInertLine c.scriptArray ∧ Text.IsInertLine c.convertedSuffix ∧
      ∀ g ∈ c.guards, Text.IsInertLine g.symbol)
    ⟨fun ⟨ha, hs, hg⟩ => ⟨ha, hs, hg⟩, fun ⟨ha, hs, hg⟩ => ⟨ha, hs, hg⟩⟩

instance (p : Parameter) : Decidable p.IsInert :=
  decidable_of_iff (Text.IsInertLine p.name.shown ∧ Text.IsInertLine p.type.name ∧
      Text.IsInertLine p.default.shown)
    ⟨fun ⟨hn, ht, hd⟩ => ⟨hn, ht, hd⟩, fun ⟨hn, ht, hd⟩ => ⟨hn, ht, hd⟩⟩

instance (f : FunctionDecl) : Decidable f.IsInert :=
  decidable_of_iff (Text.IsInertLine f.name.shown ∧ Text.IsInertLine f.returnType.name ∧
      (∀ p ∈ f.parameters, p.IsInert) ∧ Text.IsInertLine f.owner.shown ∧
      Text.IsInertLine f.header.shown ∧ Text.IsInertLine f.location.shown ∧
      ∀ e ∈ f.specialization.entries, Text.IsInertLine e.2.shown)
    ⟨fun ⟨hn, hr, hp, ho, hh, hl, hs⟩ => ⟨hn, hr, hp, ho, hh, hl, hs⟩,
      fun ⟨hn, hr, hp, ho, hh, hl, hs⟩ => ⟨hn, hr, hp, ho, hh, hl, hs⟩⟩

instance (f : FieldDecl) : Decidable f.IsInert :=
  decidable_of_iff (Text.IsInertLine f.name.shown ∧ Text.IsInertLine f.type.name ∧
      Text.IsInertLine f.owner.shown ∧ Text.IsInertLine f.header.shown)
    ⟨fun ⟨hn, ht, ho, hh⟩ => ⟨hn, ht, ho, hh⟩, fun ⟨hn, ht, ho, hh⟩ => ⟨hn, ht, ho, hh⟩⟩

instance (o : GlueOptions) : Decidable o.IsInert :=
  decidable_of_iff (Text.IsInertLine o.namespaceName.shown ∧
      Text.IsInertLine o.registerFunction.shown ∧ ∀ h ∈ o.includes, Text.IsInertLine h.shown)
    ⟨fun ⟨hn, hr, hi⟩ => ⟨hn, hr, hi⟩, fun ⟨hn, hr, hi⟩ => ⟨hn, hr, hi⟩⟩

instance (i : Inputs) : Decidable i.IsInert :=
  decidable_of_iff (i.catalog.conventions.IsInert ∧ (∀ f ∈ i.functions, f.IsInert) ∧
      ∀ f ∈ i.fields, f.IsInert)
    ⟨fun ⟨hc, hf, hx⟩ => ⟨hc, hf, hx⟩, fun ⟨hc, hf, hx⟩ => ⟨hc, hf, hx⟩⟩

theorem Conventions.guardFor?_isInert {c : Conventions} {header : Attribute} {g : String}
    (hc : c.IsInert) (h : c.guardFor? header = some g) : Text.IsInertLine g := by
  rw [guardFor?] at h
  split at h
  · rw [guardSymbol?] at h
    split at h
    · cases h
    · obtain ⟨x, hx, rfl⟩ := Option.map_eq_some_iff.1 h
      exact hc.guards x (List.mem_of_find?_eq_some hx)
  · cases h

theorem Json.withoutHead_isInert {j : Json} (h : Text.IsInertLine j.shown) (head : Json) :
    Text.IsInertLine (j.withoutHead head).shown := by
  unfold withoutHead
  split
  · rename_i s t
    cases hrest : t.toList.isPrefixOf? s.toList with
    | none => exact h
    | some rest =>
      refine h.of_subset fun c hc => ?_
      rw [Option.map_some, Option.getD_some, shown_string, String.toList_ofList] at hc
      rw [shown_string, ← List.isPrefixOf?_eq_some_iff_append_eq.1 hrest]
      exact List.mem_append_right _ hc
  · exact h

theorem Inputs.headers_isInert {i : Inputs} (hi : i.IsInert) (head : Attribute) :
    ∀ h ∈ i.headers head, Text.IsInertLine h.shown := by
  intro h hh
  obtain ⟨x, hx, rfl⟩ := List.mem_map.1 (List.mem_eraseDups.1 hh)
  refine Json.withoutHead_isInert ?_ head
  rcases List.mem_append.1 (List.mem_of_mem_filter hx) with hx | hx
  · obtain ⟨f, hf, rfl⟩ := List.mem_map.1 hx
    exact (hi.functions f hf).header
  · obtain ⟨f, hf, rfl⟩ := List.mem_map.1 hx
    exact (hi.fields f hf).header

/-- No escape in what the function is specialized with makes a directive. -/
def FunctionDecl.SpecializesInertly (f : FunctionDecl) : Prop :=
  ∀ e ∈ f.specialization.entries, Specialization.IsInert e

namespace FunctionDecl

variable {f : FunctionDecl} {e : String}

theorem qualifiedName_isInert (hf : f.IsInert) : Text.IsInert f.qualifiedName :=
  .ite (by simp +decide [hf.owner.inert, hf.name.inert]) hf.name.inert

theorem signature_isInert (hf : f.IsInert) : Text.IsInert f.signature := by
  have hparameters : Text.IsInert (", ".intercalate (f.parameters.map (·.type.spelling))) := by
    refine .intercalate (by decide) fun s hs => ?_
    obtain ⟨p, hp, rfl⟩ := List.mem_map.1 hs
    exact CppType.spelling_isInert (hf.parameters p hp).type.inert
  have hstatic : Text.IsInert (if f.kind = .static then "static " else "") :=
    .ite (by decide) (by decide)
  have hconst : Text.IsInert (if f.isConstMethod then " const" else "") :=
    .ite (by decide) (by decide)
  simp +decide [signature, hparameters, hstatic, hconst, qualifiedName_isInert hf,
    CppType.spelling_isInert hf.returnType.inert]

theorem overloadName_isInert {name : String} {types : List CppType} (hn : Text.IsInert name)
    (ht : ∀ t ∈ types, Text.IsInert t.name) : Text.IsInert (overloadName name types) := by
  have hparts :
      Text.IsInert (String.join (types.map fun t => "_" ++ CppType.identifierPart t.name)) := by
    refine .join fun s hs => ?_
    obtain ⟨t, htype, rfl⟩ := List.mem_map.1 hs
    exact (by decide : Text.IsInert "_").append (CppType.identifierPart_isInert (ht t htype))
  exact .ite (hn.append (by decide)) (hn.append hparts)

theorem composeWrapperName_isInert {name : String} {types : List CppType} {owner : Attribute}
    (hn : Text.IsInert name) (ht : ∀ t ∈ types, Text.IsInert t.name)
    (ho : Text.IsInert owner.shown) (isTemplate : Bool) :
    Text.IsInert (composeWrapperName name types owner isTemplate) := by
  have hoverload := overloadName_isInert hn ht
  have hqualified : Text.IsInert
      (if owner.isTruthy then owner.shown ++ "_" ++ overloadName name types
        else overloadName name types) :=
    .ite ((ho.append (by decide)).append hoverload) hoverload
  rw [composeWrapperName]
  exact .ite (hqualified.append (by decide)) hqualified

theorem wrapperName_isInert (hf : f.IsInert) (isTemplate : Bool) :
    Text.IsInert (f.wrapperName isTemplate) := by
  refine composeWrapperName_isInert hf.name.inert ?_ ?_ _
  · intro t ht
    obtain ⟨p, hp, rfl⟩ := List.mem_map.1 ht
    exact (hf.parameters p hp).type.inert
  · split
    · decide
    · exact hf.owner.inert

theorem registrationExpression_isInert (hf : f.IsInert) (hs : f.SpecializesInertly)
    (h : f.registrationExpression = .ok e) : Text.IsInert e := by
  obtain ⟨parameters, hp, h⟩ := Outcome.bind_eq_ok.1 h
  obtain ⟨ts, hts, hp⟩ := Outcome.bind_eq_ok.1 hp
  cases hp
  have hts : Text.IsInert (", ".intercalate ts) := by
    refine .intercalate (by decide) fun t ht => ?_
    obtain ⟨p, hp, ht⟩ := exists_of_mem_forall₂ (Outcome.mapM_eq_ok.1 hts) ht
    exact Specialization.apply_isInert hs
      (CppType.spelling_isInert (hf.parameters p hp).type.inert) ht
  have hparameters : Text.IsInert ("(" ++ ", ".intercalate ts ++ ")") := by simp +decide [hts]
  have hreturn := CppType.spelling_isInert hf.returnType.inert
  split at h
  · cases h
    have hconst : Text.IsInert (if f.isConst then " const" else "") :=
      .ite (by decide) (by decide)
    simp +decide [hparameters, hconst, hreturn, hf.owner.inert, hf.name.inert]
  · cases h
    have hcallable : Text.IsInert f.callableName :=
      .ite (qualifiedName_isInert hf) hf.name.inert
    simp +decide [hparameters, hcallable, hreturn]

end FunctionDecl

theorem Template.optionalLine_isInert {before : String} {v : Json} (hb : Text.IsInert before)
    (hv : Text.IsInert v.shown) : Text.IsInert (optionalLine before v) :=
  .ite ((hb.append hv).append (by decide)) (by decide)

theorem Template.optionalLine_isWhole (before : String) (v : Json) :
    Text.IsWhole (optionalLine before v) := by
  rw [optionalLine]
  split
  · exact .ending _ (by decide)
  · decide

namespace WrapperParts

/-- What the wrapper is made of, without its guard. -/
def code (p : WrapperParts) : String := Template.optionalLine "// " p.location ++ p.definition

structure IsInert (p : WrapperParts) : Prop where
  location : Text.IsInert p.location.shown
  returnType : Text.IsInert p.returnType
  name : Text.IsInert p.name
  parameters : ∀ s ∈ p.parameters, Text.IsInert s
  parameterGlue : ∀ s ∈ p.parameterGlue, Text.IsInert s
  resultBinding : Text.IsInert p.resultBinding
  callee : Text.IsInert p.callee
  arguments : ∀ a ∈ p.arguments, Text.IsInert a.shown
  returnGlue : ∀ s, p.returnGlue? = some s → Text.IsInert s

variable {p : WrapperParts}

theorem ending_isInert (hp : p.IsInert) : Text.IsInert p.ending := by
  have hshown : Text.IsInert (Json.ofOption p.returnGlue?).shown := by
    cases hg : p.returnGlue? with
    | none => decide
    | some s => exact hp.returnGlue s hg
  rw [ending]
  exact .ite (((by decide : Text.IsInert "    ").append hshown).append (by decide))
    (.ite (by decide) (by decide))

theorem definition_isInert (hp : p.IsInert) : Text.IsInert p.definition := by
  have hparameters : Text.IsInert (", ".intercalate p.parameters) :=
    .intercalate (by decide) hp.parameters
  have hglue : Text.IsInert
      (String.join (p.parameterGlue.map fun line => "    " ++ line ++ "\n")) := by
    refine .join fun s hs => ?_
    obtain ⟨line, hline, rfl⟩ := List.mem_map.1 hs
    simp +decide [hp.parameterGlue line hline]
  have harguments : Text.IsInert (", ".intercalate (p.arguments.map Json.shown)) := by
    refine .intercalate (by decide) fun s hs => ?_
    obtain ⟨a, ha, rfl⟩ := List.mem_map.1 hs
    exact hp.arguments a ha
  unfold definition
  simp +decide [hp.returnType, hp.name, hparameters, hglue, hp.resultBinding, hp.callee,
    harguments, ending_isInert hp]

theorem code_isWhole (p : WrapperParts) : Text.IsWhole p.code := by
  unfold code definition
  exact (Template.optionalLine_isWhole _ _).append (.ending _ (by decide))

theorem code_isInert (hp : p.IsInert) : Text.IsInert p.code :=
  (Template.optionalLine_isInert (by decide) hp.location).append (definition_isInert hp)

end WrapperParts

namespace Wrapper

/-- Nothing that goes into the text of the wrapper has a directive. -/
structure IsInert (w : Wrapper) : Prop where
  function : w.function.IsInert
  specialization : w.function.SpecializesInertly
  parameters : ∀ r ∈ w.parameters, r.IsInert
  result : w.result.IsInert
  name : Text.IsInert w.name

variable {c : Catalog} {f : FunctionDecl} {isTemplate : Bool} {w : Wrapper} {p : WrapperParts}
  {pointer : String}

theorem isInert_of_build (hc : c.conventions.IsInert) (hf : f.IsInert)
    (hs : f.SpecializesInertly) (h : build c f isTemplate = .ok w) : w.IsInert := by
  obtain ⟨parameters, result, hp, hr, rfl⟩ := build_eq_ok.1 h
  refine ⟨hf, hs, fun r hm => ?_, ?_, FunctionDecl.wrapperName_isInert hf isTemplate⟩
  · obtain ⟨p, hpm, hconvert⟩ := exists_of_mem_forall₂ (Outcome.mapM_eq_ok.1 hp) hm
    have hpi := hf.parameters p hpm
    exact Catalog.convert_isInert hc hpi.type.inert hpi.name.inert hpi.default.inert hconvert
  · exact Catalog.convert_isInert hc hf.returnType.inert (by decide) (by decide) hr

theorem scriptDeclaration_isInert (hw : w.IsInert) : Text.IsInert w.scriptDeclaration := by
  have hparameters : Text.IsInert (", ".intercalate (w.parameters.map (·.declaration))) := by
    refine .intercalate (by decide) fun s hs => ?_
    obtain ⟨r, hr, rfl⟩ := List.mem_map.1 hs
    exact (hw.parameters r hr).declaration
  have hconst : Text.IsInert (if w.function.isConstMethod then " const" else "") :=
    .ite (by decide) (by decide)
  simp +decide [scriptDeclaration, hparameters, hconst, hw.result.declaration,
    hw.function.name.inert]

theorem pointer_isInert (hw : w.IsInert) (h : w.pointer? = some pointer) :
    Text.IsInert pointer := by
  rw [pointer?] at h
  split at h
  · cases h
    simp +decide [hw.name]
  · exact FunctionDecl.registrationExpression_isInert hw.function hw.specialization
      (Outcome.toOption_eq_some.1 h)

theorem returnType_isInert (hw : w.IsInert) : Text.IsInert w.returnType := by
  rw [returnType]
  cases hn : given? w.result.nativeOverride? with
  | none => exact CppType.spelling_isInert hw.function.returnType.inert
  | some s => exact hw.result.nativeOverride s (given?_eq_some hn)

theorem nativeParameter_isInert {q : Parameter} {r : Conversion} (hq : q.IsInert)
    (hr : r.IsInert) : Text.IsInert (nativeParameter q r) := by
  rw [nativeParameter]
  cases hn : given? r.nativeOverride? with
  | none => simp +decide [hq.name.inert, CppType.spelling_isInert hq.type.inert]
  | some s => exact hr.nativeOverride s (given?_eq_some hn)

theorem callee_isInert (hf : f.IsInert) : Text.IsInert (callee f) := by
  rw [callee]
  cases f.kind with
  | method => simp +decide [hf.name.inert]
  | static => simp +decide [hf.name.inert, hf.owner.inert]
  | free => exact hf.name.inert

theorem parts_isInert (hw : w.IsInert) (h : w.parts = .ok p) : p.IsInert := by
  rw [parts] at h
  split at h
  · cases h
  cases h
  refine ⟨hw.function.location.inert, returnType_isInert hw, hw.name, ?_, ?_, ?_,
    callee_isInert hw.function, ?_, hw.result.glue⟩
  · refine List.forall_mem_append.2 ⟨?_, fun s hs => ?_⟩
    · rw [objectParameter]
      split
      · simp +decide [hw.function.owner.inert]
      · simp
    · rw [← List.map_uncurry_zip_eq_zipWith] at hs
      obtain ⟨⟨q, r⟩, hqr, rfl⟩ := List.mem_map.1 hs
      exact nativeParameter_isInert (hw.function.parameters q (List.of_mem_zip hqr).1)
        (hw.parameters r (List.of_mem_zip hqr).2)
  · intro line hline
    obtain ⟨r, hr, hgiven⟩ := List.mem_filterMap.1 hline
    exact (hw.parameters r hr).glue line (given?_eq_some hgiven)
  · exact .ite (by decide)
      ((CppType.spelling_isInert hw.function.returnType.inert).append (by decide))
  · intro a ha
    obtain ⟨q, hq, rfl⟩ := List.mem_map.1 ha
    exact (hw.function.parameters q hq).name.inert

end Wrapper

namespace RegistrationStatement

def IsInert : RegistrationStatement → Prop
  | setNamespace name => Text.IsInert name
  | globalFunction declaration pointer => Text.IsInert declaration ∧ Text.IsInert pointer
  | objectMethod owner declaration pointer _ =>
    Text.IsInert owner ∧ Text.IsInert declaration ∧ Text.IsInert pointer
  | objectProperty owner declaration field =>
    Text.IsInert owner ∧ Text.IsInert declaration ∧ Text.IsInert field

theorem text_isInert {s : RegistrationStatement} (h : s.IsInert) : Text.IsInert s.text := by
  cases s with
  | setNamespace name =>
    unfold text
    simp +decide [show Text.IsInert name from h]
  | globalFunction declaration pointer =>
    unfold text
    simp +decide [h.1, h.2]
  | objectMethod owner declaration pointer convention =>
    have hconvention : Text.IsInert convention.text := by
      cases convention <;> decide
    unfold text
    simp +decide [h.1, h.2.1, h.2.2, hconvention]
  | objectProperty owner declaration field =>
    unfold text
    simp +decide [h.1, h.2.1, h.2.2]

end RegistrationStatement

namespace Registration

/-- What registers the declaration, without its guard. -/
def code (r : Registration) : String :=
  Template.optionalLine "    // " (.ofOption r.comment?) ++
    String.join (r.statements.map fun s => "    " ++ s.text ++ "\n")

theorem code_isInert {r : Registration} (hs : ∀ s ∈ r.statements, s.IsInert)
    (hc : Text.IsInert (Json.ofOption r.comment?).shown) : Text.IsInert r.code := by
  refine (Template.optionalLine_isInert (by decide) hc).append (.join fun t ht => ?_)
  obtain ⟨s, hm, rfl⟩ := List.mem_map.1 ht
  simp +decide [RegistrationStatement.text_isInert (hs s hm)]

theorem code_isWhole (r : Registration) : Text.IsWhole r.code := by
  refine (Template.optionalLine_isWhole _ _).append (.join fun t ht => ?_)
  obtain ⟨s, -, rfl⟩ := List.mem_map.1 ht
  exact .ending _ (by decide)

end Registration

theorem Wrapper.registration_isInert {l : TemplateLibrary} {o : GlueOptions} {w : Wrapper}
    {b : Binding} (hw : w.IsInert) (h : w.bind l o = .ok b) :
    Text.IsInert b.registration.code := by
  obtain ⟨pointer, source?, hp, rfl, -⟩ := bind_eq_ok h
  have hpointer := pointer_isInert hw hp
  have hdeclaration := scriptDeclaration_isInert hw
  have howner := hw.function.owner.inert
  refine Registration.code_isInert ?_ ?_
  · rw [binding, statements]
    cases w.function.kind with
    | method => exact List.forall_mem_singleton.2 ⟨howner, hdeclaration, hpointer⟩
    | static =>
      exact List.forall_mem_cons.2 ⟨howner, List.forall_mem_cons.2 ⟨⟨hdeclaration, hpointer⟩,
        List.forall_mem_singleton.2 (by decide : Text.IsInert "")⟩⟩
    | free => exact List.forall_mem_singleton.2 ⟨hdeclaration, hpointer⟩
  · rw [binding]
    cases o.signatureComments with
    | true => exact FunctionDecl.signature_isInert hw.function
    | false => exact (by decide : Text.IsInert "None")

theorem FieldDecl.registration_isInert {c : Catalog} {o : GlueOptions} {f : FieldDecl}
    {b : Binding} (hf : f.IsInert) (h : f.bind c o = .ok b) :
    Text.IsInert b.registration.code := by
  obtain ⟨type, ht, rfl⟩ := bind_eq_ok.1 h
  have htype := Catalog.scriptDeclaration_isInert hf.type.inert ht
  refine Registration.code_isInert ?_ ?_
  · refine List.forall_mem_singleton.2 ⟨hf.owner.inert, ?_, hf.name.inert⟩
    simp +decide [htype, hf.name.inert]
  · cases o.signatureComments with
    | true =>
      have hspelling := CppType.spelling_isInert hf.type.inert
      show Text.IsInert f.signature
      simp +decide [signature, hspelling, hf.owner.inert, hf.name.inert]
    | false => exact (by decide : Text.IsInert "None")

end ScriptGlue

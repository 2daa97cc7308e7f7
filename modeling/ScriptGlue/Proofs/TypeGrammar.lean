import ScriptGlue.Proofs.Respelling
import ScriptGlue.Proofs.Thinning

namespace ScriptGlue.CppType

open Text

def isOperator (c : Char) : Bool := c == '*' || c == '&'

/-- The words of a base type. Each closes the brackets that it opens, and has operators only inside
of brackets. -/
structure IsBase (ws : List (List Char)) (base : List Char) : Prop where
  cut : IsCut ws base
  nonempty : ws ≠ []
  closed : ∀ w ∈ ws, depthAfter 0 w = 0
  noOperator : ∀ w ∈ ws, Outside (isOperator · = false) 0 w

inductive Sign where
  | pointer
  | reference
  | rvalueReference

def Sign.text : Sign → List Char
  | pointer => ['*']
  | reference => ['&']
  | rvalueReference => ['&', '&']

def IsIndent (s : List Char) : Prop := ∀ c ∈ s, c = ' ' ∨ c = '\t'

instance (s : List Char) : Decidable (IsIndent s) := inferInstanceAs (Decidable (∀ c ∈ s, _))

/-- Signs, each with one `const` after it or none, and spaces and tabs around them. The signs keep
every `const` apart from identifiers. -/
inductive IsDeclarator : List Char → Prop
  | indent {gap} : IsIndent gap → IsDeclarator gap
  | sign {gap rest} (sign : Sign) : IsIndent gap → IsDeclarator rest →
      IsDeclarator (gap ++ sign.text ++ rest)
  | constSign {gap gap' rest} (sign : Sign) : IsIndent gap → IsIndent gap' → IsDeclarator rest →
      IsDeclarator (gap ++ sign.text ++ (gap' ++ "const".toList ++ rest))

/-- What the words of a base type and a declarator say of the type. -/
structure IsReading (ws : List (List Char)) (declarator : List Char) (t : CppType) : Prop where
  isConst : t.isConst = true ↔ "const".toList ∈ ws
  name : t.name =
    if ∀ w ∈ ws, w ∈ droppedWords then "void"
    else normalizeName (String.ofList ([' '].intercalate (ws.filter (· ∉ droppedWords))))
  isPointer : t.isPointer = true ↔ 1 ≤ declarator.count '*'
  isDoublePointer : t.isDoublePointer = true ↔ 2 ≤ declarator.count '*'
  isRvalueReference : t.isRvalueReference = true ↔ ['&', '&'] <:+ declarator.filter isOperator
  isReference : t.isReference = true ↔
    ['&'] <:+ declarator.filter isOperator ∧ ¬['&', '&'] <:+ declarator.filter isOperator
  isReferenceToPointer : t.isReferenceToPointer = true ↔
    t.isReference = true ∧ t.isPointer = true

variable {c : Char} {s x y base declarator head rest operators gap : List Char}
  {ws : List (List Char)} {sign : Sign}

section Declarator

theorem isOperator_iff : isOperator c = true ↔ c = '*' ∨ c = '&' := by
  simp [isOperator]

theorem not_isOperator_of_isBlank (h : isBlank c = true) : isOperator c = false := by
  cases hc : isOperator c with
  | false => rfl
  | true => rcases isOperator_iff.1 hc with rfl | rfl <;> cases h

theorem IsIndent.isBlank (h : IsIndent s) (hc : c ∈ s) : isBlank c = true := by
  rcases h c hc with rfl | rfl
  · rfl
  · rfl

theorem IsIndent.reverse (h : IsIndent s) : IsIndent s.reverse :=
  fun c hc => h c (List.mem_reverse.1 hc)

theorem isOperator_of_mem_text (h : c ∈ sign.text) : c = '*' ∨ c = '&' := by
  cases sign <;> simp_all [Sign.text]

theorem filter_text : sign.text.filter isOperator = sign.text := by
  cases sign <;> rfl

theorem IsIndent.filter_eq (h : IsIndent s) : s.filter isOperator = [] := by
  rw [List.filter_eq_nil_iff]
  intro c hc
  rcases h c hc with rfl | rfl
  · decide
  · decide

theorem splitDeclarator_indent (h : IsIndent gap) :
    splitDeclarator (gap ++ rest) operators = splitDeclarator rest operators := by
  induction gap with
  | nil => rfl
  | cons c gap ih =>
    obtain ⟨hc, hgap⟩ := List.forall_mem_cons.1 h
    rw [← ih hgap]
    rcases hc with rfl | rfl
    · rfl
    · rfl

theorem splitDeclarator_const (h : bindsConst rest = true) :
    splitDeclarator ("const".toList.reverse ++ rest) operators = splitDeclarator rest operators :=
  if_pos h

theorem bindsConst_sign (h : IsIndent gap) :
    bindsConst (gap ++ (sign.text.reverse ++ rest)) = true := by
  have hsign : bindsConst (sign.text.reverse ++ rest) = true := by cases sign <;> rfl
  cases gap with
  | nil => exact hsign
  | cons c gap =>
    obtain ⟨hc, hgap⟩ := List.forall_mem_cons.1 h
    rw [bindsConst, Bool.and_eq_true] at hsign ⊢
    constructor
    · rcases hc with rfl | rfl
      · rfl
      · rfl
    · rw [List.dropWhile_append_of_pos fun d hd => h.isBlank hd]
      exact hsign.2

theorem IsDeclarator.splitDeclarator (h : IsDeclarator declarator) :
    splitDeclarator (declarator.reverse ++ rest) operators =
      splitDeclarator rest (declarator.filter isOperator ++ operators) := by
  induction h generalizing rest operators with
  | indent hgap =>
    rw [splitDeclarator_indent hgap.reverse, hgap.filter_eq]
    rfl
  | sign sign hgap _ ih =>
    rw [List.reverse_append, List.reverse_append, List.append_assoc, List.append_assoc, ih,
      splitDeclarator_operators fun c hc => isOperator_of_mem_text (List.mem_reverse.1 hc),
      splitDeclarator_indent hgap.reverse]
    simp only [List.reverse_reverse, List.filter_append, hgap.filter_eq, filter_text,
      List.nil_append, List.append_assoc]
  | @constSign gap gap' rest' sign hgap hgap' _ ih =>
    have hconst : "const".toList.filter isOperator = [] := by decide
    have hbinds :
        bindsConst (gap'.reverse ++ (sign.text.reverse ++ (gap.reverse ++ rest))) = true :=
      bindsConst_sign hgap'.reverse
    simp only [List.reverse_append, List.append_assoc]
    rw [ih, splitDeclarator_const hbinds, splitDeclarator_indent hgap'.reverse,
      splitDeclarator_operators fun c hc => isOperator_of_mem_text (List.mem_reverse.1 hc),
      splitDeclarator_indent hgap.reverse]
    simp only [List.reverse_reverse, List.filter_append, hgap.filter_eq, hgap'.filter_eq,
      filter_text, hconst, List.nil_append, List.append_assoc]

theorem IsDeclarator.isIndent (h : IsDeclarator declarator)
    (hblank : ∀ c ∈ s, isBlank c = true) (hs : s ⊆ declarator) : IsIndent s := by
  suffices ∀ c ∈ declarator, isBlank c = true → c = ' ' ∨ c = '\t' from
    fun c hc => this c (hs hc) (hblank c hc)
  have htext {sign : Sign} {c : Char} (hc : c ∈ sign.text) : isBlank c = false := by
    rcases isOperator_of_mem_text hc with rfl | rfl
    · rfl
    · rfl
  have hconst : ∀ c ∈ "const".toList, isBlank c = false := by decide
  clear hs hblank
  induction h with
  | indent hgap => exact fun c hc _ => hgap c hc
  | sign sign hgap _ ih =>
    intro c hc hb
    simp only [List.mem_append] at hc
    rcases hc with (hc | hc) | hc
    · exact hgap c hc
    · exact absurd hb (Bool.eq_false_iff.1 (htext hc))
    · exact ih c hc hb
  | constSign sign hgap hgap' _ ih =>
    intro c hc hb
    simp only [List.mem_append] at hc
    rcases hc with (hc | hc) | (hc | hc) | hc
    · exact hgap c hc
    · exact absurd hb (Bool.eq_false_iff.1 (htext hc))
    · exact hgap' c hc
    · exact absurd hb (Bool.eq_false_iff.1 (hconst c hc))
    · exact ih c hc hb

end Declarator

section Base

theorem not_isOperator_of_flat (h : Outside (isOperator · = false) 0 (x ++ c :: y))
    (hdepth : depthAfter 0 (x ++ c :: y) = 0) (hy : ∀ d ∈ y, d ≠ '<' ∧ d ≠ '>') :
    isOperator c = false := by
  cases hc : isOperator c with
  | false => rfl
  | true =>
    have hflat : ∀ d ∈ c :: y, d ≠ '<' ∧ d ≠ '>' := by
      apply List.forall_mem_cons.2 ⟨?_, hy⟩
      rcases isOperator_iff.1 hc with rfl | rfl
      · decide
      · decide
    rw [depthAfter_append, depthAfter_of_flat hflat] at hdepth
    exact hc.symm.trans (h.holds hdepth)

theorem exists_of_bindsConst (h : bindsConst s = true) :
    ∃ gap c rest, s = gap ++ c :: rest ∧ (∀ b ∈ gap, isBlank b = true) ∧ isOperator c = true := by
  rw [bindsConst, Bool.and_eq_true, Option.any_eq_true] at h
  obtain ⟨-, c, hc, hoperator⟩ := h
  obtain ⟨rest, hrest⟩ := List.head?_eq_some_iff.1 hc
  refine ⟨s.takeWhile isBlank, c, rest, ?_, fun b hb => List.mem_takeWhile_imp hb, hoperator⟩
  rw [← hrest, List.takeWhile_append_dropWhile]

theorem isBare_of_outside (h : Outside (isOperator · = false) 0 (x ++ [c]))
    (hdepth : depthAfter 0 (x ++ [c]) = 0) (hc : isBlank c = false) :
    IsBare (c :: x.reverse) := by
  apply isBare_cons.2
  refine ⟨?_, hc, ?_⟩
  · intro hoperator
    have hnot := not_isOperator_of_flat h hdepth (by simp)
    rw [isOperator_iff.2 hoperator] at hnot
    cases hnot
  · intro r hr
    rw [← Bool.not_eq_true]
    intro hbinds
    obtain ⟨gap, d, rest, rfl, hgap, hoperator⟩ := exists_of_bindsConst hbinds
    have hx : x ++ [c] = rest.reverse ++ d :: (gap.reverse ++ "const".toList) := by
      apply List.reverse_injective
      rw [List.reverse_append, List.reverse_singleton, List.singleton_append, hr]
      simp
    have hconst : ∀ e ∈ "const".toList, e ≠ '<' ∧ e ≠ '>' := by decide
    have hflat : ∀ e ∈ gap.reverse ++ "const".toList, e ≠ '<' ∧ e ≠ '>' := by
      intro e he
      rcases List.mem_append.1 he with he | he
      · exact flat_of_isBlank (hgap e (List.mem_reverse.1 he))
      · exact hconst e he
    rw [hx] at h hdepth
    have hnot := not_isOperator_of_flat h hdepth hflat
    rw [hoperator] at hnot
    cases hnot

theorem IsBase.exists_isBare (h : IsBase ws base) :
    ∃ head gap, base = head ++ gap ∧ (∀ c ∈ gap, isBlank c = true) ∧ depthAfter 0 head = 0 ∧
      IsBare head.reverse := by
  have hsplit := trimRight_append base
  have hgap : ∀ c ∈ (base.reverse.takeWhile isBlank).reverse, isBlank c = true :=
    fun c hc => List.mem_takeWhile_imp (List.mem_reverse.1 hc)
  have houtside := h.cut.outside (fun b hb => not_isOperator_of_isBlank hb) h.noOperator
  have hdepth := h.cut.depthAfter h.closed
  rw [hsplit, outside_append] at houtside
  rw [hsplit, depthAfter_append,
    depthAfter_of_flat fun c hc => flat_of_isBlank (hgap c hc)] at hdepth
  refine ⟨trimRight base, _, hsplit, hgap, hdepth, ?_⟩
  cases hr : base.reverse.dropWhile isBlank with
  | nil =>
    have hblank := List.dropWhile_eq_nil_iff.1 hr
    have hnil := topLevelWords_of_blank fun c hc => hblank c (List.mem_reverse.2 hc)
    exact absurd (h.cut.topLevelWords_eq.symm.trans hnil) h.nonempty
  | cons c rest =>
    have hc := List.head?_dropWhile_not isBlank base.reverse
    rw [hr] at hc
    rw [trimRight, hr, List.reverse_cons] at houtside hdepth
    rw [trimRight, hr, List.reverse_reverse]
    have hbare := isBare_of_outside houtside.1 hdepth (by simpa using hc)
    rw [List.reverse_reverse] at hbare
    exact hbare

theorem splitDeclarator_blank (hgap : ∀ c ∈ gap, isBlank c = true) (h : IsBare s) :
    ∃ gap', gap' <:+ gap ∧ splitDeclarator (gap ++ s) operators = (gap' ++ s, operators) := by
  induction gap with
  | nil => exact ⟨[], List.suffix_refl _, h.splitDeclarator⟩
  | cons c gap ih =>
    obtain ⟨hc, hgap⟩ := List.forall_mem_cons.1 hgap
    by_cases hindent : c = ' ' ∨ c = '\t'
    · obtain ⟨gap', hsuffix, hsplit⟩ := ih hgap
      refine ⟨gap', hsuffix.trans (List.suffix_cons c gap), ?_⟩
      have hc : IsIndent [c] := by simpa [IsIndent] using hindent
      exact (splitDeclarator_indent hc).trans hsplit
    · refine ⟨c :: gap, List.suffix_refl _, ?_⟩
      have hconst : ∀ rest, c = 't' → gap ++ s = 's' :: 'n' :: 'o' :: 'c' :: rest → False := by
        rintro rest rfl
        cases hc
      have hoperator := not_isOperator_of_isBlank hc
      rw [isOperator] at hoperator
      rw [List.cons_append, splitDeclarator.eq_2 _ _ _ hconst,
        if_neg (Bool.eq_false_iff.1 hoperator), if_neg (by simpa using hindent)]

theorem IsBase.splitDeclarator (hb : IsBase ws base) (hd : IsDeclarator declarator) :
    ∃ head, topLevelWords 0 [] head = ws ∧
      splitDeclarator ((base ++ declarator).reverse.dropWhile isBlank) [] =
        (head.reverse, declarator.filter isOperator) := by
  have hwords := hb.cut.topLevelWords_eq
  obtain ⟨head, gap, rfl, hgap, hdepth, hbare⟩ := hb.exists_isBare
  rw [topLevelWords_append_blank hdepth hgap] at hwords
  have hlead : ∀ c ∈ declarator.reverse.takeWhile isBlank, isBlank c = true :=
    fun c hc => List.mem_takeWhile_imp hc
  have hindent : IsIndent (declarator.reverse.takeWhile isBlank) := by
    apply hd.isIndent hlead
    intro c hc
    exact List.mem_reverse.1 (List.takeWhile_subset _ hc)
  rw [List.reverse_append, List.dropWhile_append]
  split
  · rename_i hempty
    -- The declarator is white space, and falls away with that of the base type.
    rw [List.isEmpty_iff, List.dropWhile_eq_nil_iff] at hempty
    have hspaces := hd.isIndent (fun c hc => hempty c (List.mem_reverse.2 hc)) (List.Subset.refl _)
    refine ⟨head, hwords, ?_⟩
    rw [List.reverse_append,
      List.dropWhile_append_of_pos fun c hc => hgap c (List.mem_reverse.1 hc), hbare.2.1,
      hspaces.filter_eq, hbare.2.2]
  · have hsplit := @IsDeclarator.splitDeclarator declarator (head ++ gap).reverse [] hd
    rw [← List.takeWhile_append_dropWhile (p := isBlank) (l := declarator.reverse),
      List.append_assoc, splitDeclarator_indent hindent, List.append_nil,
      List.reverse_append] at hsplit
    obtain ⟨gap', hsuffix, hrest⟩ :=
      @splitDeclarator_blank head.reverse (declarator.filter isOperator) gap.reverse
        (fun c hc => hgap c (List.mem_reverse.1 hc)) hbare
    refine ⟨head ++ gap'.reverse, ?_, ?_⟩
    · rw [topLevelWords_append_blank hdepth, hwords]
      intro c hc
      exact hgap c (List.mem_reverse.1 (hsuffix.subset (List.mem_reverse.1 hc)))
    · rw [List.reverse_append, hsplit, hrest, List.reverse_append, List.reverse_reverse]

theorem normalize_intercalate_ne_nil (h : IsCut ws s) (hne : ws ≠ []) :
    normalize ([' '].intercalate ws) ≠ [] := by
  intro hempty
  obtain ⟨w, hw⟩ := List.exists_mem_of_ne_nil ws hne
  obtain ⟨c, hc, hsolid⟩ := h.exists_of_mem hw
  obtain ⟨p, q, hjoined, -⟩ := (h.intercalate (List.Sublist.refl ws)).standsAlone hw
  have hfilter := (thinner_normalize ([' '].intercalate ws)).filter_eq
  rw [hempty, List.filter_nil, hjoined] at hfilter
  have hnone := List.filter_eq_nil_iff.1 hfilter.symm c (by simp [hc])
  rw [hsolid] at hnone
  exact hnone rfl

theorem normalizeName_ofList (s : List Char) :
    normalizeName (String.ofList s) = String.ofList (normalize s) := by
  rw [normalizeName, String.toList_ofList]

theorem nameOfWords_eq (h : IsCut ws s) :
    nameOfWords ws =
      if ∀ w ∈ ws, w ∈ droppedWords then "void".toList
      else normalize ([' '].intercalate (ws.filter (· ∉ droppedWords))) := by
  have hkept : ws.filter (!droppedWords.contains ·) = ws.filter (· ∉ droppedWords) := by
    simp
  rw [nameOfWords, hkept]
  by_cases hall : ∀ w ∈ ws, w ∈ droppedWords
  · have hnone : ws.filter (· ∉ droppedWords) = [] := by simpa using hall
    rw [if_pos hall, hnone]
    rfl
  · have hsome : ws.filter (· ∉ droppedWords) ≠ [] := by simpa using hall
    have hne := normalize_intercalate_ne_nil (h.intercalate List.filter_sublist) hsome
    rw [if_neg hall, if_neg (by simpa using hne)]

end Base

section Reading

/-- A base type and a declarator after it are read as what they say. -/
theorem ofSpelling_isReading {base declarator : String} (hb : IsBase ws base.toList)
    (hd : IsDeclarator declarator.toList) :
    IsReading ws declarator.toList (ofSpelling (base ++ declarator)) := by
  obtain ⟨head, hwords, hsplit⟩ := hb.splitDeclarator hd
  have hstars : (declarator.toList.filter isOperator).count '*' = declarator.toList.count '*' :=
    List.count_filter rfl
  rw [← String.toList_append] at hsplit
  rw [ofSpelling, ofChars_eq hsplit, List.reverse_reverse, hwords, hstars]
  constructor
  · simp
  · rw [nameOfWords_eq hb.cut]
    split_ifs
    · exact String.ofList_toList
    · exact (normalizeName_ofList _).symm
  · simp
  · simp
  · simp
  · simp [← Bool.not_eq_true]
  · simp

theorem ofSpelling_isReading_handles :
    let base := "const Vector< SharedPtr<Node *> >"
    let declarator := " *const\t& "
    let ws := ["const".toList, "Vector< SharedPtr<Node *> >".toList]
    IsBase ws base.toList ∧ IsDeclarator declarator.toList ∧
      IsReading ws declarator.toList (ofSpelling (base ++ declarator)) := by
  intro base declarator ws
  have hb : IsBase ws base.toList :=
    ⟨topLevelWords_eq_iff.1 (by decide), by decide, by decide, by decide⟩
  have htext : declarator.toList = [' '] ++ Sign.pointer.text ++ ([] ++ "const".toList ++
      (['\t'] ++ Sign.reference.text ++ [' '])) := by decide
  have hd : IsDeclarator declarator.toList := by
    rw [htext]
    apply IsDeclarator.constSign .pointer (by decide) (by decide)
    exact .sign .reference (by decide) (.indent (by decide))
  exact ⟨hb, hd, ofSpelling_isReading hb hd⟩

end Reading

end ScriptGlue.CppType

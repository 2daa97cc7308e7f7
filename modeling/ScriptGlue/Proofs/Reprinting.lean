import Mathlib.Data.List.Flatten
import ScriptGlue.Proofs.Operand
import ScriptGlue.Proofs.TypeGrammar

namespace ScriptGlue.CppType

open Text

/-- An operator stands at the end of the name, or before a `const` at the end. -/
def EndsInDeclarator (name : List Char) : Prop :=
  ∃ before c tail, isOperator c = true ∧ (tail = [] ∨ tail = "const".toList) ∧
    name = before ++ c :: tail

variable {c : Char} {s name before tail base operators : List Char} {ws : List (List Char)}
  {t : CppType}

section Name

theorem IsCut.intercalate_eq (h : IsCut ws s) (hhead : ∀ c ∈ s.head?, isBlank c = false)
    (hlast : ∀ c ∈ s.getLast?, isBlank c = false) (hspaces : ∀ c ∈ s, isBlank c = true → c = ' ')
    (hfits : s.IsChain Fits) : [' '].intercalate ws = s := by
  induction h with
  | nil => rfl
  | blank hb _ _ =>
    rw [hhead _ rfl] at hb
    cases hb
  | last _ _ => exact List.intercalate_singleton
  | @word w b ws s hne hunbroken hdepth hb h ih =>
    obtain rfl := hspaces b (by simp) hb
    have htail := (List.isChain_append.1 hfits).2.1
    rw [List.isChain_cons] at htail
    have hhead : ∀ c ∈ s.head?, isBlank c = false :=
      fun c hc => (isSolid_eq_true.1 ((htail.1 c hc).1 hb)).1
    cases s with
    | nil =>
      rw [hlast ' ' (by simp)] at hb
      cases hb
    | cons d s =>
      have hrest := ih hhead (fun c hc => hlast c (by simpa using hc))
        (fun c hc => hspaces c (by simp [hc])) htail.2
      cases ws with
      | nil => cases hrest
      | cons v ws =>
        rw [List.intercalate_cons_cons, hrest, List.append_assoc]
        rfl

theorem isSolid_of_mem_droppedWords {w : List Char} (h : w ∈ droppedWords) :
    w ≠ [] ∧ ∀ c ∈ w, isSolid c = true := by
  revert w
  decide

/-- No word that names leave out comes up in a name, since a word that stands alone in the name did
so before normalizing. -/
theorem not_mem_droppedWords_of_mem (h : IsCut ws s) (hws : ∀ w ∈ ws, w ∉ droppedWords)
    {w : List Char} (hw : w ∈ topLevelWords 0 [] (normalize ([' '].intercalate ws))) :
    w ∉ droppedWords := by
  intro hdropped
  obtain ⟨hne, hsolid⟩ := isSolid_of_mem_droppedWords hdropped
  have halone := (topLevelWords_eq_iff.1 rfl).standsAlone hw
  have hbefore := (thinner_normalize _).standsAlone hne hsolid halone
  have hflat : ∀ c ∈ w, isBlank c = false ∧ c ≠ '<' ∧ c ≠ '>' := by
    intro c hc
    obtain ⟨hblank, hmark⟩ := isSolid_eq_true.1 (hsolid c hc)
    refine ⟨hblank, ?_, ?_⟩
    · rintro rfl
      cases hmark
    · rintro rfl
      cases hmark
  have hmem := hbefore.mem_topLevelWords hne hflat
  rw [(h.intercalate (List.Sublist.refl ws)).topLevelWords_eq] at hmem
  exact hws w hmem hdropped

theorem IsNormal.nameOfWords_eq (h : IsNormal s) (hne : s ≠ []) (hcut : IsCut ws s)
    (hws : ∀ w ∈ ws, w ∉ droppedWords) : nameOfWords ws = s := by
  have hjoined := hcut.intercalate_eq h.trimmed.1 h.trimmed.2 h.spaces h.fits
  have hsome : ¬∀ w ∈ ws, w ∈ droppedWords := by
    intro hall
    have hnone : ws = [] := List.eq_nil_iff_forall_not_mem.2 fun w hw => hws w hw (hall w hw)
    rw [hnone] at hjoined
    exact hne hjoined.symm
  have hself : ws.filter (· ∉ droppedWords) = ws := by
    rw [List.filter_eq_self]
    intro w hw
    simpa using hws w hw
  rw [CppType.nameOfWords_eq hcut, if_neg hsome, hself, hjoined, h.normalize_eq]

theorem nameOfWords_topLevelWords (h : IsCut ws s) :
    nameOfWords (topLevelWords 0 [] (nameOfWords ws)) = nameOfWords ws ∧
      "const".toList ∉ topLevelWords 0 [] (nameOfWords ws) := by
  rw [nameOfWords_eq h]
  split_ifs with hall
  · decide
  · have hkept := h.intercalate (List.filter_sublist (p := (· ∉ droppedWords)))
    have hne : ws.filter (· ∉ droppedWords) ≠ [] := by simpa using hall
    have hws : ∀ w ∈ ws.filter (· ∉ droppedWords), w ∉ droppedWords := by
      intro w hw
      simpa using (List.mem_filter.1 hw).2
    have hdropped {w : List Char} := @not_mem_droppedWords_of_mem _ _ hkept hws w
    constructor
    · apply (isNormal_normalize _).nameOfWords_eq (normalize_intercalate_ne_nil hkept hne)
      · exact topLevelWords_eq_iff.1 rfl
      · intro w hw
        exact hdropped hw
    · intro hconst
      exact hdropped hconst (by decide)

end Name

section Operators

theorem filter_isOperator_filter (s : List Char) :
    (s.filter (!isBlank ·)).filter isOperator = s.filter isOperator := by
  rw [List.filter_filter]
  congr 1
  funext c
  cases hc : isBlank c with
  | false => exact Bool.and_true _
  | true =>
    rw [not_isOperator_of_isBlank hc]
    rfl

theorem filter_isOperator_normalize (s : List Char) :
    (normalize s).filter isOperator = s.filter isOperator := by
  rw [← filter_isOperator_filter, (thinner_normalize s).filter_eq, filter_isOperator_filter]

theorem filter_isOperator_intercalate (ws : List (List Char)) :
    ([' '].intercalate ws).filter isOperator = ws.flatten.filter isOperator := by
  induction ws with
  | nil => rfl
  | cons w ws ih =>
    cases ws with
    | nil => rw [List.intercalate_singleton, List.flatten_singleton]
    | cons v ws =>
      rw [List.intercalate_cons_cons, List.filter_append, List.filter_append, ih,
        List.flatten_cons (l := w), List.filter_append]
      simp [isOperator]

theorem IsCut.flatten_sublist (h : IsCut ws s) : ws.flatten.Sublist s := by
  induction h with
  | nil => exact .slnil
  | blank _ _ ih => exact ih.cons _
  | last _ _ => rw [List.flatten_singleton]
  | word _ _ _ _ _ ih =>
    rw [List.flatten_cons]
    exact (List.Sublist.refl _).append (ih.cons _)

theorem filter_isOperator_nameOfWords (h : IsCut ws s) :
    ((nameOfWords ws).filter isOperator).Sublist (s.filter isOperator) := by
  rw [nameOfWords_eq h]
  split_ifs
  · exact List.nil_sublist _
  · rw [filter_isOperator_normalize, filter_isOperator_intercalate]
    exact ((List.filter_sublist.flatten).trans h.flatten_sublist).filter _

end Operators

section Reread

theorem isMark_of_isOperator (h : isOperator c = true) : isMark c = true := by
  rcases isOperator_iff.1 h with rfl | rfl
  · rfl
  · rfl

theorem isBlank_of_isOperator (h : isOperator c = true) : isBlank c = false :=
  isBlank_of_isMark (isMark_of_isOperator h)

theorem isOperator_of_bindsConst {b : Char} (hb : bindsConst (b :: s) = true)
    (hfits : (b :: s).IsChain Fits) : isOperator b = true := by
  obtain ⟨gap, c, rest, heq, hgap, hc⟩ := exists_of_bindsConst hb
  cases gap with
  | nil =>
    obtain ⟨rfl, -⟩ := List.cons.inj heq
    exact hc
  | cons d gap =>
    obtain ⟨rfl, rfl⟩ := List.cons.inj heq
    have hsolid : ∀ e ∈ (gap ++ c :: rest).head?, isSolid e = true :=
      fun e he => ((List.isChain_cons.1 hfits).1 e he).1 (hgap b List.mem_cons_self)
    cases gap with
    | nil => exact absurd (hsolid c rfl) (by simp [not_isSolid_of_isMark (isMark_of_isOperator hc)])
    | cons e gap =>
      have he := hgap e (by simp)
      exact absurd (hsolid e rfl) (by simp [not_isSolid_of_isBlank he])

theorem IsNormal.isBare (h : IsNormal name) (hne : name ≠ []) (hends : ¬EndsInDeclarator name) :
    IsBare name.reverse := by
  obtain ⟨x, c, rfl⟩ := (List.eq_nil_or_concat name).resolve_left hne
  rw [List.concat_eq_append] at h hends ⊢
  rw [List.reverse_append, List.reverse_singleton, List.singleton_append, isBare_cons]
  refine ⟨?_, h.trimmed.2 c (by simp), ?_⟩
  · intro hc
    exact hends ⟨x, c, [], isOperator_iff.2 hc, .inl rfl, rfl⟩
  · intro r hr
    rw [← Bool.not_eq_true]
    intro hbinds
    have hfits := List.isChain_reverse.2 (h.fits.imp fun a b hab => hab.symm)
    rw [List.reverse_append, List.reverse_singleton, List.singleton_append, hr,
      List.isChain_append] at hfits
    cases r with
    | nil => cases hbinds
    | cons b r =>
      have hoperator := isOperator_of_bindsConst hbinds hfits.2.1
      have heq := congrArg List.reverse hr
      rw [List.reverse_cons, List.reverse_reverse, List.reverse_append] at heq
      apply hends
      refine ⟨r.reverse, b, "const".toList, hoperator, .inr rfl, ?_⟩
      rw [heq, List.reverse_cons, List.append_assoc]
      rfl

theorem ofSpelling_eq_plain {name : String} (hbare : IsBare name.toList.reverse)
    (hname : nameOfWords (topLevelWords 0 [] name.toList) = name.toList)
    (hconst : "const".toList ∉ topLevelWords 0 [] name.toList) :
    ofSpelling name = plain name := by
  have hsplit : splitDeclarator (name.toList.reverse.dropWhile isBlank) [] =
      (name.toList.reverse, []) := by rw [hbare.2.1, hbare.2.2]
  rw [ofSpelling, ofChars_eq hsplit, List.reverse_reverse, hname, String.ofList_toList,
    List.contains_eq_mem, decide_eq_false hconst]
  rfl

theorem exists_isCut_ofSpelling (s : String) :
    ∃ ws head, IsCut ws head ∧ (ofSpelling s).name.toList = nameOfWords ws := by
  obtain ⟨head, operators, -, -, hsplit⟩ :=
    exists_splitDeclarator (s.toList.reverse.dropWhile isBlank)
  refine ⟨topLevelWords 0 [] head.reverse, head.reverse, topLevelWords_eq_iff.1 rfl, ?_⟩
  rw [ofSpelling, ofChars_eq (hsplit [])]
  exact String.toList_ofList

theorem ofSpelling_name_eq_plain (s : String)
    (h : ¬EndsInDeclarator (ofSpelling s).name.toList) :
    ofSpelling (ofSpelling s).name = plain (ofSpelling s).name := by
  obtain ⟨ws, head, hcut, hname⟩ := exists_isCut_ofSpelling s
  obtain ⟨hself, hconst⟩ := nameOfWords_topLevelWords hcut
  rw [← hname] at hself hconst
  have hnormal := isNormal_normalize (ofSpelling s).name.toList
  have hfixed := congrArg String.toList (normalizeName_ofSpelling s)
  rw [normalizeName, String.toList_ofList] at hfixed
  rw [hfixed] at hnormal
  have hne : (ofSpelling s).name.toList ≠ [] := by
    intro hnil
    rw [hnil] at hself
    revert hself
    decide
  exact ofSpelling_eq_plain (hnormal.isBare hne h) hself hconst

theorem splitDeclarator_of_ends {pre : List Char} (hc : isOperator c = true)
    (htail : tail = [] ∨ tail = "const".toList) :
    splitDeclarator (pre ++ (before ++ c :: tail)).reverse operators =
      splitDeclarator (pre ++ before).reverse (c :: operators) := by
  have hoperator := isOperator_iff.1 hc
  rw [← List.append_assoc, List.reverse_append, List.reverse_cons, List.append_assoc,
    List.singleton_append]
  rcases htail with rfl | rfl
  · exact splitDeclarator_operator hoperator
  · rw [splitDeclarator_const, splitDeclarator_operator hoperator]
    rcases hoperator with rfl | rfl
    · rfl
    · rfl

theorem head?_spelling_of_ends (hc : isOperator c = true)
    (htail : tail = [] ∨ tail = "const".toList) (hname : t.name.toList = before ++ c :: tail) :
    ∀ d ∈ t.spelling.toList.reverse.head?, isBlank d = false := by
  intro d hd
  rw [toList_spelling, List.head?_reverse, List.getLast?_append] at hd
  cases ho : t.operators.toList.getLast? with
  | some e =>
    rw [ho] at hd
    obtain rfl := Option.some.inj hd
    exact isBlank_of_isOperator (isOperator_iff.2 (t.operators_mem e (List.mem_of_getLast? ho)))
  | none =>
    rw [ho, Option.none_or, List.getLast?_append, hname, List.getLast?_append] at hd
    rcases htail with rfl | rfl
    · obtain rfl := Option.some.inj hd
      exact isBlank_of_isOperator hc
    · obtain rfl : 't' = d := Option.some.inj hd
      decide

/-- All that the declarators of a spelling leave is a part of what stands before the one in the
name. -/
theorem exists_splitDeclarator_spelling (hc : isOperator c = true)
    (htail : tail = [] ∨ tail = "const".toList) (hname : t.name.toList = before ++ c :: tail) :
    ∃ head taken, head <:+ ((if t.isConst then "const ".toList else []) ++ before).reverse ∧
      splitDeclarator (t.spelling.toList.reverse.dropWhile isBlank) [] = (head, taken) := by
  have htext := congrArg List.reverse t.toList_spelling
  rw [List.reverse_append, hname] at htext
  rw [dropWhile_of_head (head?_spelling_of_ends hc htail hname), htext,
    splitDeclarator_operators fun d hd => t.operators_mem d (List.mem_reverse.1 hd),
    splitDeclarator_of_ends hc htail]
  obtain ⟨head, taken, hhead, -, hsplit⟩ := exists_splitDeclarator
    ((if t.isConst then "const ".toList else []) ++ before).reverse
  exact ⟨head, _, hhead, hsplit _⟩

theorem name_ofSpelling_spelling_ne (h : EndsInDeclarator t.name.toList) :
    (ofSpelling t.spelling).name ≠ t.name := by
  intro heq
  obtain ⟨before, c, tail, hc, htail, hname⟩ := h
  obtain ⟨head, taken, hhead, hsplit⟩ := exists_splitDeclarator_spelling hc htail hname
  have hread : nameOfWords (topLevelWords 0 [] head.reverse) = t.name.toList := by
    rw [← heq, ofSpelling, ofChars_eq hsplit, String.toList_ofList]
  have hcut : IsCut (topLevelWords 0 [] head.reverse) head.reverse := topLevelWords_eq_iff.1 rfl
  have hinitial : head.reverse <+: (if t.isConst then "const ".toList else []) ++ before := by
    rw [← List.reverse_suffix, List.reverse_reverse]
    exact hhead
  have hconst : (if t.isConst then "const ".toList else []).filter isOperator = [] := by
    split <;> decide
  -- The operator in the name is one more than there are in what is left.
  have hlength := ((filter_isOperator_nameOfWords hcut).trans
    (hinitial.sublist.filter isOperator)).length_le
  rw [hread, hname, List.filter_append, List.filter_append, hconst, List.nil_append,
    List.length_append, List.filter_cons_of_pos hc, List.length_cons] at hlength
  omega

end Reread

section Spelling

theorem HasSpelledSigns.asPrinted_eq (h : t.HasSpelledSigns) : t.asPrinted = t := by
  obtain ⟨hboth, hdouble, hrvalue⟩ := h
  have hreference : (t.isReference && !t.isRvalueReference) = t.isReference := by
    cases hr : t.isRvalueReference with
    | false => exact Bool.and_true _
    | true =>
      rw [hrvalue hr]
      rfl
  have hpointer : (t.isPointer || t.isDoublePointer) = t.isPointer := by
    cases hd : t.isDoublePointer with
    | false => exact Bool.or_false _
    | true =>
      rw [hdouble hd]
      rfl
  rw [asPrinted, hreference, hpointer, ← hboth]

theorem ofSpelling_spelling_of_plain (h : t.HasSpelledSigns)
    (hname : ofSpelling t.name = plain t.name) : ofSpelling t.spelling = t := by
  rw [ofSpelling_spelling hname]
  exact h.asPrinted_eq

theorem not_endsInDeclarator (h : ofSpelling t.spelling = t) :
    ¬EndsInDeclarator t.name.toList := by
  intro hends
  exact name_ofSpelling_spelling_ne hends (congrArg CppType.name h)

/-- Reading undoes printing exactly for signs that a spelling can show and a name that is read as
itself. -/
theorem ofSpelling_spelling_eq_self_iff (t : CppType) :
    ofSpelling t.spelling = t ↔ t.HasSpelledSigns ∧ ofSpelling t.name = plain t.name := by
  constructor
  · intro h
    have hsigns := ofSpelling_hasSpelledSigns t.spelling
    have hname := ofSpelling_name_eq_plain t.spelling
    rw [h] at hsigns hname
    exact ⟨hsigns, hname (not_endsInDeclarator h)⟩
  · rintro ⟨hsigns, hname⟩
    exact ofSpelling_spelling_of_plain hsigns hname

/-- Printing and reading again changes nothing exactly where no declarator is left at the end of the
name. -/
theorem ofSpelling_reread_iff (s : String) :
    ofSpelling (ofSpelling s).spelling = ofSpelling s ↔
      ¬EndsInDeclarator (ofSpelling s).name.toList := by
  constructor
  · exact not_endsInDeclarator
  · intro h
    exact ofSpelling_spelling_of_plain (ofSpelling_hasSpelledSigns s) (ofSpelling_name_eq_plain s h)

/-- Before `volatile`, a second `const` or a line break the operator of a pointer stays in the name,
and is found only when the spelling is read. -/
theorem ofSpelling_reread_pointers :
    (ofSpelling "Node* const const").name = "Node*" ∧
      (ofSpelling "Node* const const").isPointer = false ∧
      ofSpelling (ofSpelling "Node* const const").spelling ≠ ofSpelling "Node* const const" ∧
      ofSpelling (ofSpelling "Node* volatile").spelling ≠ ofSpelling "Node* volatile" ∧
      ofSpelling (ofSpelling "Node*\nconst").spelling ≠ ofSpelling "Node*\nconst" := by
  decide

end Spelling

end ScriptGlue.CppType

import ScriptGlue.Declaration.Document
import ScriptGlue.Proofs.Conversion

namespace ScriptGlue

namespace CppType

open Text

section Length

theorem length_collapse_le (inRun : Bool) (s : List Char) :
    (collapse inRun s).length ≤ s.length := by
  induction s generalizing inRun with
  | nil => exact Nat.le_refl 0
  | cons c cs ih =>
    have hopen := ih false
    have hrun := ih true
    rw [collapse]
    split_ifs
    · exact Nat.le_succ_of_le hrun
    · exact Nat.succ_le_succ hrun
    · exact Nat.succ_le_succ hopen

theorem length_dropAfterMark_le (afterMark : Bool) (s : List Char) :
    (dropAfterMark afterMark s).length ≤ s.length := by
  induction s generalizing afterMark with
  | nil => exact Nat.le_refl 0
  | cons c cs ih =>
    rw [dropAfterMark]
    split
    · exact Nat.le_succ_of_le (ih true)
    · exact Nat.succ_le_succ (ih (isMark c))

theorem length_trim_le (s : List Char) : (trim s).length ≤ s.length := by
  have hleft := (List.dropWhile_suffix isBlank : s.dropWhile isBlank <:+ s).length_le
  have hright := (List.dropWhile_suffix isBlank :
    (trimLeft s).reverse.dropWhile isBlank <:+ (trimLeft s).reverse).length_le
  rw [List.length_reverse] at hright
  rw [trim, trimRight, List.length_reverse]
  exact hright.trans hleft

theorem length_normalize_le (s : List Char) : (normalize s).length ≤ s.length := by
  rw [normalize, tighten, List.length_reverse]
  refine (length_dropAfterMark_le _ _).trans ?_
  rw [List.length_reverse]
  exact (length_dropAfterMark_le _ _).trans
    ((length_collapse_le _ _).trans (length_trim_le _))

def room : List (List Char) → Nat
  | [] => 0
  | w :: ws => w.length + 1 + room ws

@[simp] theorem room_cons (w : List Char) (ws : List (List Char)) :
    room (w :: ws) = w.length + 1 + room ws := rfl

theorem room_filter_le (p : List Char → Bool) (ws : List (List Char)) :
    room (ws.filter p) ≤ room ws := by
  induction ws with
  | nil => exact Nat.le_refl 0
  | cons w ws ih =>
    rw [List.filter_cons, room_cons]
    split
    · exact Nat.add_le_add_left ih _
    · exact ih.trans (Nat.le_add_left _ _)

theorem length_intercalate_le (ws : List (List Char)) :
    ([' '].intercalate ws).length ≤ room ws - 1 := by
  induction ws with
  | nil => exact Nat.le_refl 0
  | cons w ws ih =>
    cases ws with
    | nil => simp [List.intercalate, room]
    | cons v vs =>
      rw [List.intercalate_cons_cons, List.length_append, List.length_append,
        List.length_singleton, room_cons]
      rw [room_cons] at ih ⊢
      omega

theorem room_topLevelWords_le (depth : Int) (word s : List Char) :
    room (topLevelWords depth word s) ≤ word.length + s.length + 1 := by
  induction s generalizing depth word with
  | nil =>
    cases word with
    | nil => exact Nat.zero_le _
    | cons c cs => simp [topLevelWords, room]
  | cons c cs ih =>
    rw [topLevelWords, List.length_cons]
    generalize (if c == '<' then depth + 1 else if c == '>' then depth - 1 else depth) = d
    have hstart := ih d []
    have hword := ih d (c :: word)
    rw [List.length_nil] at hstart
    rw [List.length_cons] at hword
    split_ifs
    · omega
    · rw [room_cons, List.length_reverse]
      omega
    · omega

/-- A name has no more characters than what it is made from, but where nothing is left of that. -/
theorem length_nameOfWords_le {s : List Char}
    (h : nameOfWords (topLevelWords 0 [] s) ≠ "void".toList) :
    (nameOfWords (topLevelWords 0 [] s)).length ≤ s.length := by
  rw [nameOfWords] at h ⊢
  split
  · rename_i hempty
    exact absurd (if_pos hempty) h
  · have hroom := (room_filter_le (!droppedWords.contains ·) (topLevelWords 0 [] s)).trans
      (room_topLevelWords_le 0 [] s)
    have hlength := (length_normalize_le _).trans (length_intercalate_le
      ((topLevelWords 0 [] s).filter (!droppedWords.contains ·)))
    rw [List.length_nil] at hroom
    omega

end Length

section Declarator

variable {s rest operators : List Char}

theorem exists_splitDeclarator (s : List Char) :
    ∃ head taken, head <:+ s ∧ (∀ c ∈ taken, c = '*' ∨ c = '&') ∧
      ∀ operators, splitDeclarator s operators = (head, taken ++ operators) := by
  suffices ∀ operators : List Char, ∃ head taken, head <:+ s ∧
      (∀ c ∈ taken, c = '*' ∨ c = '&') ∧
      ∀ operators, splitDeclarator s operators = (head, taken ++ operators) from this []
  intro operators
  induction s, operators using splitDeclarator.induct with
  | case1 rest operators hconst ih =>
    obtain ⟨head, taken, hhead, htaken, hsplit⟩ := ih
    refine ⟨head, taken, hhead.trans (List.suffix_append "tsnoc".toList rest), htaken, ?_⟩
    intro operators
    rw [splitDeclarator, if_pos hconst, hsplit]
  | case2 rest operators hconst =>
    refine ⟨_, [], List.suffix_refl _, by simp, ?_⟩
    intro operators
    rw [splitDeclarator, if_neg hconst]
    rfl
  | case3 c rest operators hne hoperator ih =>
    obtain ⟨head, taken, hhead, htaken, hsplit⟩ := ih
    refine ⟨head, taken ++ [c], hhead.trans (List.suffix_cons c rest), ?_, ?_⟩
    · intro d hd
      rcases List.mem_append.1 hd with hd | hd
      · exact htaken d hd
      · rw [List.mem_singleton.1 hd]
        simpa using hoperator
    · intro operators
      rw [splitDeclarator.eq_2 _ _ _ hne, if_pos hoperator, hsplit, List.append_assoc]
      rfl
  | case4 c rest operators hne hoperator hblank ih =>
    obtain ⟨head, taken, hhead, htaken, hsplit⟩ := ih
    refine ⟨head, taken, hhead.trans (List.suffix_cons c rest), htaken, ?_⟩
    intro operators
    rw [splitDeclarator.eq_2 _ _ _ hne, if_neg hoperator, if_pos hblank, hsplit]
  | case5 c rest operators hne hoperator hblank =>
    refine ⟨c :: rest, [], List.suffix_refl _, by simp, ?_⟩
    intro operators
    rw [splitDeclarator.eq_2 _ _ _ hne, if_neg hoperator, if_neg hblank]
    rfl
  | case6 operators => exact ⟨[], [], List.suffix_refl _, by simp, fun _ => rfl⟩

theorem splitDeclarator_operator {c : Char} (h : c = '*' ∨ c = '&') :
    splitDeclarator (c :: rest) operators = splitDeclarator rest (c :: operators) := by
  rcases h with rfl | rfl
  · rfl
  · rfl

theorem splitDeclarator_operators (h : ∀ c ∈ s, c = '*' ∨ c = '&') :
    splitDeclarator (s ++ rest) operators = splitDeclarator rest (s.reverse ++ operators) := by
  induction s generalizing operators with
  | nil => rfl
  | cons c cs ih =>
    obtain ⟨hc, hcs⟩ := List.forall_mem_cons.1 h
    rw [List.cons_append, splitDeclarator_operator hc, ih hcs, List.reverse_cons,
      List.append_assoc]
    rfl

def IsBare (s : List Char) : Prop :=
  s ≠ [] ∧ s.dropWhile isBlank = s ∧ splitDeclarator s [] = (s, [])

theorem IsBare.splitDeclarator (h : IsBare s) :
    splitDeclarator s operators = (s, operators) := by
  obtain ⟨head, taken, -, -, hsplit⟩ := exists_splitDeclarator s
  have heq := (hsplit []).symm.trans h.2.2
  rw [List.append_nil, Prod.mk.injEq] at heq
  rw [hsplit, heq.1, heq.2]
  rfl

def bindsConst (s : List Char) : Bool :=
  !s.head?.any isWord && (s.dropWhile isBlank).head?.any fun c => c == '*' || c == '&'

theorem isBare_cons {c : Char} :
    IsBare (c :: rest) ↔ ¬(c = '*' ∨ c = '&') ∧ isBlank c = false ∧
      ∀ r, c :: rest = "tsnoc".toList ++ r → bindsConst r = false := by
  constructor
  · rintro ⟨-, hdrop, hsplit⟩
    refine ⟨fun hc => ?_, ?_, fun r hr => ?_⟩
    · rw [splitDeclarator_operator hc] at hsplit
      obtain ⟨head, taken, -, -, hrest⟩ := exists_splitDeclarator rest
      rw [hrest] at hsplit
      exact List.append_ne_nil_of_right_ne_nil taken (List.cons_ne_nil c [])
        (Prod.mk.inj hsplit).2
    · by_contra hblank
      rw [List.dropWhile_cons_of_pos (by simpa using hblank)] at hdrop
      have hle := (List.dropWhile_suffix isBlank : rest.dropWhile isBlank <:+ rest).length_le
      rw [hdrop, List.length_cons] at hle
      omega
    · by_contra hbinds
      rw [hr] at hsplit
      change (if bindsConst r = true then CppType.splitDeclarator r [] else _) = _ at hsplit
      rw [if_pos (by simpa using hbinds)] at hsplit
      obtain ⟨head, taken, hhead, -, hrest⟩ := exists_splitDeclarator r
      rw [hrest] at hsplit
      have hle := hhead.length_le
      rw [(Prod.mk.inj hsplit).1, List.length_append] at hle
      have : "tsnoc".toList.length = 5 := rfl
      omega
  · rintro ⟨hc, hblank, hr⟩
    refine ⟨List.cons_ne_nil _ _, List.dropWhile_cons_of_neg (by simpa using hblank), ?_⟩
    unfold CppType.splitDeclarator
    split
    · rename_i r heq
      exact (if_neg (Bool.eq_false_iff.1 (hr r heq))).trans (by rw [heq])
    · rename_i d r _ heq
      obtain ⟨rfl, rfl⟩ := List.cons.inj heq
      rw [if_neg (by simpa using hc), if_neg]
      intro hspace
      rw [Bool.or_eq_true, beq_iff_eq, beq_iff_eq] at hspace
      rcases hspace with rfl | rfl
      · exact absurd hblank (by decide)
      · exact absurd hblank (by decide)
    · cases ‹c :: rest = []›

theorem bindsConst_append (h : bindsConst s = false) :
    bindsConst (s ++ "const ".toList.reverse) = false := by
  cases s with
  | nil => decide
  | cons c cs =>
    rw [bindsConst, Bool.and_eq_false_iff] at h ⊢
    refine h.imp id fun hdrop => ?_
    rw [List.dropWhile_append]
    split
    · decide
    · rename_i hne
      cases hd : (c :: cs).dropWhile isBlank with
      | nil => exact absurd (by rw [hd]; rfl) hne
      | cons d ds =>
        rw [hd] at hdrop
        exact hdrop

theorem IsBare.const (h : IsBare s) : IsBare (s ++ "const ".toList.reverse) := by
  obtain ⟨c, rest, rfl⟩ := List.exists_cons_of_ne_nil h.1
  obtain ⟨hc, hblank, hr⟩ := isBare_cons.1 h
  refine isBare_cons.2 ⟨hc, hblank, fun r heq => ?_⟩
  change c :: rest ++ "const ".toList.reverse = _ at heq
  rcases List.append_eq_append_iff.1 heq with ⟨a, ha, hrest⟩ | ⟨r', hr', rfl⟩
  · cases a with
    | nil =>
      rw [List.nil_append] at hrest
      rw [← hrest]
      decide
    | cons d ds =>
      obtain rfl : ' ' = d := (List.cons.inj hrest).1
      have hspace : ' ' ∈ "tsnoc".toList := by
        rw [ha]
        exact List.mem_append_right _ List.mem_cons_self
      exact absurd hspace (by decide)
  · exact bindsConst_append (hr r' hr')

end Declarator

section Respelling

variable {t : CppType} {name : String}

theorem ofChars_eq {s head operators : List Char}
    (h : splitDeclarator (s.reverse.dropWhile isBlank) [] = (head, operators)) :
    ofChars s = {
      name := String.ofList (nameOfWords (topLevelWords 0 [] head.reverse))
      isConst := (topLevelWords 0 [] head.reverse).contains "const".toList
      isReference := ['&'].isSuffixOf operators && !List.isSuffixOf ['&', '&'] operators
      isPointer := operators.count '*' > 0
      isRvalueReference := ['&', '&'].isSuffixOf operators
      isDoublePointer := operators.count '*' ≥ 2
      isReferenceToPointer :=
        (['&'].isSuffixOf operators && !List.isSuffixOf ['&', '&'] operators) &&
          operators.count '*' > 0 } := by
  rw [ofChars, h]

theorem operators_eq_nil {operators : List Char} (h : ∀ c ∈ operators, c = '*' ∨ c = '&')
    (hstar : operators.count '*' = 0) (hr : ['&', '&'].isSuffixOf operators = false)
    (hl : (['&'].isSuffixOf operators && !List.isSuffixOf ['&', '&'] operators) = false) :
    operators = [] := by
  rw [hr, Bool.not_false, Bool.and_true] at hl
  rcases operators.eq_nil_or_concat with rfl | ⟨before, c, rfl⟩
  · rfl
  · exfalso
    rcases h c (by simp) with rfl | rfl
    · simp at hstar
    · rw [← Bool.not_eq_true, List.isSuffixOf_iff_suffix, List.concat_eq_append] at hl
      exact hl (List.suffix_append _ _)

theorem isBare_of_plain (h : ofSpelling name = plain name) :
    IsBare name.toList.reverse ∧ nameOfWords (topLevelWords 0 [] name.toList) = name.toList ∧
      (topLevelWords 0 [] name.toList).contains "const".toList = false := by
  obtain ⟨head, operators, hhead, hoperators, hsplit⟩ :=
    exists_splitDeclarator (name.toList.reverse.dropWhile isBlank)
  have hread := hsplit []
  rw [List.append_nil] at hread
  rw [ofSpelling, ofChars_eq hread, plain, CppType.mk.injEq] at h
  obtain ⟨hname, hconst, hreference, hpointer, hrvalue, -, -⟩ := h
  have hstar : operators.count '*' = 0 :=
    Nat.eq_zero_of_not_pos (of_decide_eq_false hpointer)
  obtain rfl := operators_eq_nil hoperators hstar hrvalue hreference
  have hname : nameOfWords (topLevelWords 0 [] head.reverse) = name.toList := by
    rw [← hname, String.toList_ofList]
  -- The name `void` is also read where nothing is left of the words.
  by_cases hvoid : name.toList = "void".toList
  · rw [hvoid]
    exact ⟨⟨by decide, by decide, by decide⟩, by decide, by decide⟩
  -- The name is as long as the text and is read from no more than that, so all of it is read.
  have hle := length_nameOfWords_le (hname.trans_ne hvoid)
  rw [hname, List.length_reverse] at hle
  have hdrop := List.dropWhile_suffix isBlank (l := name.toList.reverse)
  have hwhole : head = name.toList.reverse :=
    (hhead.trans hdrop).eq_of_length_le (by rwa [List.length_reverse])
  rw [hwhole] at hhead hread
  have hdrop : name.toList.reverse.dropWhile isBlank = name.toList.reverse :=
    hdrop.eq_of_length_le hhead.length_le
  rw [hwhole, List.reverse_reverse] at hname hconst
  rw [hdrop] at hread
  refine ⟨⟨?_, hdrop, hread⟩, hname, hconst⟩
  intro hnil
  rw [List.reverse_eq_nil_iff] at hnil
  rw [hnil] at hname
  revert hname
  decide

/-- The type that the spelling shows: an rvalue reference is no other reference, two stars make a
pointer too, and a reference to a pointer is what has both signs. -/
def asPrinted (t : CppType) : CppType where
  name := t.name
  isConst := t.isConst
  isReference := t.isReference && !t.isRvalueReference
  isPointer := t.isPointer || t.isDoublePointer
  isRvalueReference := t.isRvalueReference
  isDoublePointer := t.isDoublePointer
  isReferenceToPointer :=
    (t.isReference && !t.isRvalueReference) && (t.isPointer || t.isDoublePointer)

theorem operators_mem (t : CppType) : ∀ c ∈ t.operators.toList, c = '*' ∨ c = '&' := by
  rw [operators]
  split_ifs <;> simp

theorem spelling_asPrinted (t : CppType) : t.asPrinted.spelling = t.spelling := by
  obtain ⟨name, isConst, isReference, isPointer, isRvalueReference, isDoublePointer, _⟩ := t
  cases isReference <;> cases isPointer <;> cases isRvalueReference <;> cases isDoublePointer <;>
    rfl

theorem toList_spelling (t : CppType) : t.spelling.toList =
    (if t.isConst then "const ".toList else []) ++ t.name.toList ++ t.operators.toList := by
  rw [spelling, String.toList_append, String.toList_append]
  split <;> rfl

theorem splitDeclarator_spelling {s : List Char} (h : IsBare s.reverse) (t : CppType) :
    splitDeclarator ((s ++ t.operators.toList).reverse.dropWhile isBlank) [] =
      (s.reverse, t.operators.toList) := by
  have hmem : ∀ c ∈ t.operators.toList.reverse, c = '*' ∨ c = '&' :=
    fun c hc => t.operators_mem c (List.mem_reverse.1 hc)
  have hdrop : (t.operators.toList.reverse ++ s.reverse).dropWhile isBlank =
      t.operators.toList.reverse ++ s.reverse := by
    cases ho : t.operators.toList.reverse with
    | nil => exact h.2.1
    | cons c cs =>
      rw [ho] at hmem
      refine List.dropWhile_cons_of_neg ?_
      rcases hmem c List.mem_cons_self with rfl | rfl
      · decide
      · decide
  rw [List.reverse_append, hdrop, splitDeclarator_operators hmem, List.reverse_reverse,
    List.append_nil, h.splitDeclarator]

theorem ofSpelling_spelling (h : ofSpelling t.name = plain t.name) :
    ofSpelling t.spelling = t.asPrinted := by
  obtain ⟨hbare, hname, hconst⟩ := isBare_of_plain h
  have hwords : nameOfWords (topLevelWords 0 []
        ((if t.isConst then "const ".toList else []) ++ t.name.toList)) = t.name.toList ∧
      (topLevelWords 0 [] ((if t.isConst then "const ".toList else []) ++ t.name.toList)).contains
        "const".toList = t.isConst := by
    cases t.isConst with
    | false => exact ⟨hname, hconst⟩
    | true => exact ⟨hname, rfl⟩
  have hbare : IsBare ((if t.isConst then "const ".toList else []) ++ t.name.toList).reverse := by
    rw [List.reverse_append]
    cases t.isConst with
    | false => rwa [if_neg Bool.false_ne_true, List.reverse_nil, List.append_nil]
    | true => exact hbare.const
  rw [ofSpelling, toList_spelling, ofChars_eq (splitDeclarator_spelling hbare t),
    List.reverse_reverse, hwords.1, hwords.2, String.ofList_toList]
  rw [operators, asPrinted]
  cases t.isReference <;> cases t.isPointer <;> cases t.isRvalueReference <;>
    cases t.isDoublePointer <;> rfl

end Respelling

end CppType

namespace CppType

variable {ms : List (String × Json)} {t : CppType}

theorem ofMembers_eq_ok (hname : ms.lookup "name" ≠ none) (h : ofMembers ms = .ok t) :
    ∃ name, t = {
      name
      isConst := Json.flag ms "is_const"
      isReference := Json.flag ms "is_reference"
      isPointer := Json.flag ms "is_pointer"
      isRvalueReference := Json.flag ms "is_rvalue_reference"
      isDoublePointer := Json.flag ms "is_double_pointer"
      isReferenceToPointer := Json.flag ms "is_reference_to_pointer" } := by
  obtain ⟨v, hv⟩ := Option.ne_none_iff_exists'.1 hname
  rw [ofMembers, hv] at h
  obtain ⟨j, -, h⟩ := Outcome.bind_eq_ok.1 h
  obtain ⟨text, -, h⟩ := Outcome.bind_eq_ok.1 h
  exact ⟨normalizeName text, (Outcome.pure_eq_ok.1 h).symm⟩

end CppType

namespace Rejection

structure Account where
  kind : String
  type : String
  message : String
  reason? : Option UnbindableReason
  default? : Option Attribute

def default? : Rejection → Option Attribute
  | defaultValue _ value => some value
  | _ => none

def account (r : Rejection) : Account where
  kind := r.kind
  type := r.type.spelling
  message := r.message
  reason? := r.reason?
  default? := r.default?

theorem account_qualifierShape (t : CppType) : (qualifierShape t).account = {
    kind := "UnsupportedQualifierShape"
    type := t.spelling
    message := ofType t.spelling
    reason? := none
    default? := none } := rfl

def IsPastShape : Rejection → Prop
  | qualifierShape _ => False
  | _ => True

theorem IsPastShape.kind_ne {r : Rejection} (h : r.IsPastShape) :
    r.kind ≠ "UnsupportedQualifierShape" := by
  cases r with
  | qualifierShape t => exact h.elim
  | unbindable | markedNoBind | contextResult | contextParameter | ownershipTransfer
  | pointerOwnership | defaultValue => exact of_decide_eq_true rfl

end Rejection

namespace Catalog

open CppType Outcome

variable {c : Catalog} {t : CppType} {name : String} {usage : Usage} {default : Attribute}
  {r : Rejection}

theorem rejectDenylisted_isPastShape (e : String) :
    FailsOnly Rejection.IsPastShape (c.rejectDenylisted t e) :=
  .ite (.error trivial) (.ok _)

theorem rejectDefault_isPastShape : FailsOnly Rejection.IsPastShape (rejectDefault t default) :=
  .ite (.error trivial) (.ok _)

theorem resultRule_isPastShape (s : Shape) :
    FailsOnly Rejection.IsPastShape (c.resultRule t s) := by
  cases s with
  | context => exact .error trivial
  | singleOwner e => exact (rejectDenylisted_isPastShape e).bind fun _ => .ok _
  | singleOwnerSequence e => exact (rejectDenylisted_isPastShape e).bind fun _ => .ok _
  | void => exact .ok _
  | stringSequence => exact .ok _
  | pointerSequence e => exact .ok _
  | valueSequence e => exact .ok _
  | plain => exact .ok _

theorem parameterRule_isPastShape (s : Shape) :
    FailsOnly Rejection.IsPastShape (c.parameterRule t name default s) := by
  cases s with
  | context => exact .error trivial
  | singleOwnerSequence e =>
    exact .ite ((rejectDenylisted_isPastShape e).bind fun _ =>
      rejectDefault_isPastShape.bind fun _ => .ok _) (.ok _)
  | pointerSequence e => exact .ite (rejectDefault_isPastShape.bind fun _ => .ok _) (.ok _)
  | valueSequence e => exact .ite (rejectDefault_isPastShape.bind fun _ => .ok _) (.ok _)
  | stringSequence => exact .ok _
  | void => exact .ok _
  | singleOwner e => exact .ok _
  | plain => exact .ok _

theorem requireBindable_isPastShape : FailsOnly Rejection.IsPastShape (c.requireBindable t) := by
  rw [requireBindable]
  cases c.resolve t.name with
  | accepted => exact .ok _
  | refused reason => exact .error trivial
  | markedNoBind => exact .error trivial

theorem referenceOrHandle_isPastShape : FailsOnly Rejection.IsPastShape (c.referenceOrHandle t) :=
  .ite (.ok _) (.ite (.ite (.ok _) (.error trivial)) (.ok _))

theorem generalDeclaration_isPastShape :
    FailsOnly Rejection.IsPastShape (c.generalDeclaration t usage default) := by
  rw [generalDeclaration]
  refine .ite (.error trivial) (requireBindable_isPastShape.bind fun _ => ?_)
  refine .ite (.error trivial) (.ite (.error trivial) ?_)
  exact .ite ((FailsOnly.ok _).bind fun _ => .ok _)
    (referenceOrHandle_isPastShape.bind fun _ => (FailsOnly.ok _).bind fun _ => .ok _)

theorem convert_isPastShape (h : rejectQualifierShape t = .ok ()) :
    FailsOnly Rejection.IsPastShape (c.convert t name usage default) := by
  rw [convert, shapeRule, h]
  refine FailsOnly.bind ?_ fun r? => ?_
  · cases usage with
    | result => exact resultRule_isPastShape _
    | parameter => exact parameterRule_isPastShape _
  · cases r? with
    | some r => exact .ok _
    | none => exact generalDeclaration_isPastShape.bind fun _ => .ok _

theorem convert_of_error (h : rejectQualifierShape t = .error r) :
    c.convert t name usage default = .error r := by
  rw [convert, shapeRule, h]
  rfl

theorem rejectQualifierShape_eq_error :
    rejectQualifierShape t = .error (.qualifierShape t) ↔
      t.isRvalueReference = true ∨ t.isDoublePointer = true ∨ t.isReferenceToPointer = true := by
  rw [rejectQualifierShape]
  cases t.isRvalueReference <;> cases t.isDoublePointer <;> cases t.isReferenceToPointer <;>
    simp

theorem convert_eq_qualifierShape :
    c.convert t name usage default = .error (.qualifierShape t) ↔
      t.isRvalueReference = true ∨ t.isDoublePointer = true ∨ t.isReferenceToPointer = true := by
  rw [← rejectQualifierShape_eq_error]
  constructor
  · intro h
    cases hr : rejectQualifierShape t with
    | ok u => exact (convert_isPastShape hr _ h).elim
    | error r => exact congrArg _ (Except.error.inj ((convert_of_error hr).symm.trans h))
  · exact convert_of_error

theorem account_convert_ne {t' : CppType} (h : rejectQualifierShape t = .ok ())
    (h' : rejectQualifierShape t' = .error (.qualifierShape t')) :
    (c.convert t name usage default).mapError Rejection.account ≠
      (c.convert t' name usage default).mapError Rejection.account := by
  rw [convert_of_error h']
  cases hc : c.convert t name usage default with
  | ok r => exact fun heq => nomatch heq
  | error r =>
    intro heq
    have hkind : r.kind = (Rejection.qualifierShape t').kind :=
      congrArg Rejection.Account.kind (Except.error.inj heq)
    exact (convert_isPastShape h r hc).kind_ne hkind

theorem asPrinted_eq_self (hr : t.isRvalueReference = false) (hd : t.isDoublePointer = false)
    (h : t.isReferenceToPointer = (t.isReference && t.isPointer)) : t.asPrinted = t := by
  rw [asPrinted, hr, hd, Bool.not_false, Bool.and_true, Bool.or_false, ← h]
  cases t
  simp_all

/-- A type and its spelling convert alike exactly if both or neither is a reference to a pointer, or
another sign rejects both. -/
theorem account_convert_spelling_iff (h : ofSpelling t.name = plain t.name) :
    (c.convert t name usage default).mapError Rejection.account =
        (c.convert (ofSpelling t.spelling) name usage default).mapError Rejection.account ↔
      t.isRvalueReference = true ∨ t.isDoublePointer = true ∨
        t.isReferenceToPointer = (t.isReference && t.isPointer) := by
  rw [ofSpelling_spelling h]
  constructor
  · intro heq
    by_contra hne
    simp only [not_or, Bool.not_eq_true] at hne
    obtain ⟨hr, hd, hp⟩ := hne
    cases hflag : t.isReferenceToPointer with
    | true =>
      rw [hflag] at hp
      have hshape : rejectQualifierShape t.asPrinted = .ok () :=
        rejectQualifierShape_eq_ok.2 (by simp_all [asPrinted])
      exact account_convert_ne hshape (rejectQualifierShape_eq_error.2 (.inr (.inr hflag))) heq.symm
    | false =>
      rw [hflag] at hp
      have hshape : rejectQualifierShape t.asPrinted = .error (.qualifierShape t.asPrinted) :=
        rejectQualifierShape_eq_error.2 (.inr (.inr (by simp_all [asPrinted])))
      exact account_convert_ne (rejectQualifierShape_eq_ok.2 ⟨hr, hd, hflag⟩) hshape heq
  · intro hsigns
    by_cases hboth : t.isRvalueReference = true ∨ t.isDoublePointer = true
    · have ht : c.convert t name usage default = .error (.qualifierShape t) :=
        convert_eq_qualifierShape.2 (hboth.imp id .inl)
      have hprinted : c.convert t.asPrinted name usage default =
          .error (.qualifierShape t.asPrinted) :=
        convert_eq_qualifierShape.2 (hboth.imp id .inl)
      rw [ht, hprinted, Except.mapError, Except.mapError, Rejection.account_qualifierShape,
        Rejection.account_qualifierShape, spelling_asPrinted]
    · simp only [not_or, Bool.not_eq_true] at hboth
      have hflag := (hsigns.resolve_left (by simp [hboth.1])).resolve_left (by simp [hboth.2])
      rw [asPrinted_eq_self hboth.1 hboth.2 hflag]

/-- An object that names a type agrees with the spelling of that type exactly if it marks a
reference to a pointer as such and nothing else, or marks what is rejected in any case. -/
theorem convert_respelled_iff {ms : List (String × Json)} (hname : ms.lookup "name" ≠ none)
    (ht : CppType.ofMembers ms = .ok t) (hself : ofSpelling t.name = plain t.name) (c : Catalog)
    (name : String) (usage : Usage) (default : Attribute) :
    ((c.convert t name usage default).mapError Rejection.account =
          (c.convert (ofSpelling t.spelling) name usage default).mapError Rejection.account ↔
        Json.flag ms "is_rvalue_reference" = true ∨ Json.flag ms "is_double_pointer" = true ∨
          Json.flag ms "is_reference_to_pointer" =
            (Json.flag ms "is_reference" && Json.flag ms "is_pointer")) ∧
      (c.convert t name usage default = .error (.qualifierShape t) ↔
        Json.flag ms "is_rvalue_reference" = true ∨ Json.flag ms "is_double_pointer" = true ∨
          Json.flag ms "is_reference_to_pointer" = true) := by
  obtain ⟨text, rfl⟩ := ofMembers_eq_ok hname ht
  exact ⟨account_convert_spelling_iff hself, convert_eq_qualifierShape⟩

theorem convert_respelled_node :
    let c := build {} [{ name := "Node", isRefCounted := true }] [] []
    let ms : List (String × Json) := [("name", "Node"), ("is_pointer", .bool true)]
    let t : CppType := { name := "Node", isPointer := true }
    ms.lookup "name" ≠ none ∧ CppType.ofMembers ms = .ok t ∧
      ofSpelling t.name = plain t.name ∧
      ((c.convert t "node" .parameter).mapError Rejection.account =
            (c.convert (ofSpelling t.spelling) "node" .parameter).mapError Rejection.account ↔
          Json.flag ms "is_rvalue_reference" = true ∨ Json.flag ms "is_double_pointer" = true ∨
            Json.flag ms "is_reference_to_pointer" =
              (Json.flag ms "is_reference" && Json.flag ms "is_pointer")) ∧
      (c.convert t "node" .parameter = .error (.qualifierShape t) ↔
        Json.flag ms "is_rvalue_reference" = true ∨ Json.flag ms "is_double_pointer" = true ∨
          Json.flag ms "is_reference_to_pointer" = true) := by
  intro c ms t
  have hname : ms.lookup "name" ≠ none := by simp [ms]
  have ht : CppType.ofMembers ms = .ok t := rfl
  have hself : ofSpelling t.name = plain t.name := by decide
  exact ⟨hname, ht, hself, convert_respelled_iff hname ht hself c "node" .parameter .null⟩

/-- A reference to a pointer that is not marked as such becomes a reference, where its spelling is
rejected. -/
theorem convert_unmarked_node :
    let c := build {} [{ name := "Node", isRefCounted := true }] [] []
    let ms : List (String × Json) :=
      [("name", "Node"), ("is_reference", .bool true), ("is_pointer", .bool true)]
    let t : CppType := { name := "Node", isReference := true, isPointer := true }
    CppType.ofMembers ms = .ok t ∧ ofSpelling t.name = plain t.name ∧ t.spelling = "Node*&" ∧
      c.convert t "node" .parameter = .ok { declaration := "Node&" } ∧
      c.convert (ofSpelling t.spelling) "node" .parameter =
        .error (.qualifierShape (ofSpelling t.spelling)) := by
  intro c ms t
  refine ⟨rfl, by decide, by decide, Outcome.toOption_eq_some.1 (by decide), ?_⟩
  exact convert_of_error (rejectQualifierShape_eq_error.2 (by decide))

end Catalog

end ScriptGlue

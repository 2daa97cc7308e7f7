import Mathlib.Data.List.TakeWhile
import ScriptGlue.Conversion
import ScriptGlue.Proofs.Conversion
import ScriptGlue.Text.Numeral

namespace ScriptGlue

/-- An element of the value of a literal. A number beyond ASCII names a unit of the encoding and no
character. -/
inductive LiteralElement where
  | character (c : Char)
  | codeUnit (n : Nat)
  deriving DecidableEq

/-- A piece of the source of a literal, with the element that it makes. -/
structure LiteralPiece where
  source : List Char
  element : LiteralElement

instance decidableForallMem (s : List Char) (p : Char → Prop) [DecidablePred p] :
    Decidable (∀ c ∈ s, p c) :=
  List.decidableBAll p s

namespace StringLiteral

open Text

def isLineBreak (c : Char) : Bool := c == '\n' || c == '\r'

def simpleEscape? : Char → Option Char
  | '\'' => some '\''
  | '"' => some '"'
  | '?' => some '?'
  | '\\' => some '\\'
  | 'a' => some '\x07'
  | 'b' => some '\x08'
  | 'f' => some '\x0c'
  | 'n' => some '\n'
  | 'r' => some '\r'
  | 't' => some '\t'
  | 'v' => some '\x0b'
  | _ => none

def unit? (n : Nat) : Option LiteralElement :=
  if n < 128 then some (.character (Char.ofNat n))
  else if n < 256 then some (.codeUnit n)
  else none

def scalar? (n : Nat) : Option LiteralElement :=
  if n.isValidChar then some (.character (Char.ofNat n)) else none

def nameLength (c : Char) : Nat := if c == 'u' then 4 else 8

/-- The escape that a character and the digits after it make. One to three octal digits and any row
of hexadecimal digits are numbers of code units; four or eight hexadecimal digits name a character
of any script. -/
def escape? (c : Char) (cs : List Char) : Option LiteralPiece :=
  let hexadecimal := cs.takeWhile (isDigitOf 16)
  let octal := (cs.takeWhile (isDigitOf 8)).take 2
  if c == 'x' then
    if hexadecimal.isEmpty then none
    else (unit? (numeral 16 hexadecimal)).map (⟨'\\' :: c :: hexadecimal, ·⟩)
  else if c == 'u' || c == 'U' then
    let ds := hexadecimal.take (nameLength c)
    if ds.length < nameLength c then none
    else (scalar? (numeral 16 ds)).map (⟨'\\' :: c :: ds, ·⟩)
  else if isDigitOf 8 c then (unit? (numeral 8 (c :: octal))).map (⟨'\\' :: c :: octal, ·⟩)
  else (simpleEscape? c).map fun e => ⟨['\\', c], .character e⟩

/-- The piece that a text starts with. A quote and a line break are none. -/
def piece? : List Char → Option LiteralPiece
  | [] => none
  | ['\\'] => none
  | '\\' :: c :: cs => escape? c cs
  | c :: _ => if c == '"' || isLineBreak c then none else some ⟨[c], .character c⟩

/-- The pieces before the quote that closes the literal, and what follows that quote; `skip` counts
the characters of the last piece that are still to be passed over. -/
def pieces? : Nat → List Char → Option (List LiteralPiece × List Char)
  | _, [] => none
  | skip + 1, _ :: cs => pieces? skip cs
  | 0, c :: cs =>
    if c == '"' then some ([], cs)
    else do
      let p ← piece? (c :: cs)
      let (ps, rest) ← pieces? (p.source.length - 1) cs
      return (p :: ps, rest)

/-- Reads the text after an opening quote: the value of the literal, and what comes after it. -/
def read? (s : List Char) : Option (List LiteralElement × List Char) :=
  (pieces? 0 s).map fun r => (r.1.map (·.element), r.2)

/-- The pieces of a literal, told apart by what counts for quotes. -/
inductive IsPiece : LiteralPiece → Prop
  | plain {c : Char} (hb : c ≠ '\\') (hq : c ≠ '"') (hl : isLineBreak c = false) :
    IsPiece ⟨[c], .character c⟩
  | quote : IsPiece ⟨['\\', '"'], .character '"'⟩
  | escape {p : LiteralPiece} (hlength : 2 ≤ p.source.length)
      (hsource : ∀ c ∈ p.source, c ≠ '"' ∧ isLineBreak c = false) : IsPiece p

variable {c : Char} {s cs ds rest : List Char} {p : LiteralPiece} {ps : List LiteralPiece}

theorem isDigitOf_neutral {base : Nat} (h : isDigitOf base c = true) :
    c ≠ '"' ∧ isLineBreak c = false := by
  constructor
  · rintro rfl
    cases h
  · rw [isLineBreak, Bool.or_eq_false_iff, beq_eq_false_iff_ne, beq_eq_false_iff_ne]
    constructor
    · rintro rfl
      cases h
    · rintro rfl
      cases h

theorem isPiece_of_digits {base : Nat} (hc : c ≠ '"' ∧ isLineBreak c = false)
    (hd : ds <+: cs.takeWhile (isDigitOf base)) (e : LiteralElement) :
    IsPiece ⟨'\\' :: c :: ds, e⟩ ∧ '\\' :: c :: ds <+: '\\' :: c :: cs := by
  constructor
  · refine .escape (by simp) fun d hm => ?_
    rcases List.mem_cons.1 hm with rfl | hm
    · decide
    rcases List.mem_cons.1 hm with rfl | hm
    · exact hc
    · exact isDigitOf_neutral (List.mem_takeWhile_imp (hd.subset hm))
  · have hcs := hd.trans (List.takeWhile_prefix _)
    rwa [List.cons_prefix_cons, and_iff_right rfl, List.cons_prefix_cons, and_iff_right rfl]

theorem isPiece_of_simpleEscape? {e : Char} (h : simpleEscape? c = some e) :
    IsPiece ⟨['\\', c], .character e⟩ := by
  by_cases hq : c = '"'
  · subst hq
    cases h
    exact .quote
  · refine .escape (by simp) fun d hm => ?_
    rcases List.mem_cons.1 hm with rfl | hm
    · decide
    obtain rfl := List.mem_singleton.1 hm
    refine ⟨hq, ?_⟩
    rw [isLineBreak, Bool.or_eq_false_iff, beq_eq_false_iff_ne, beq_eq_false_iff_ne]
    constructor
    · rintro rfl
      cases h
    · rintro rfl
      cases h

theorem isPiece_of_escape? (h : escape? c cs = some p) :
    IsPiece p ∧ p.source <+: '\\' :: c :: cs := by
  rw [escape?] at h
  split at h
  · rename_i hx
    obtain rfl := beq_iff_eq.1 hx
    split at h
    · cases h
    · obtain ⟨e, -, rfl⟩ := Option.map_eq_some_iff.1 h
      exact isPiece_of_digits (by decide) (List.prefix_refl _) e
  split at h
  · rename_i hu
    have hc : c ≠ '"' ∧ isLineBreak c = false := by
      rw [Bool.or_eq_true, beq_iff_eq, beq_iff_eq] at hu
      rcases hu with rfl | rfl
      · decide
      · decide
    dsimp only at h
    split at h
    · cases h
    · obtain ⟨e, -, rfl⟩ := Option.map_eq_some_iff.1 h
      exact isPiece_of_digits hc (List.take_prefix _ _) e
  split at h
  · rename_i ho
    obtain ⟨e, -, rfl⟩ := Option.map_eq_some_iff.1 h
    exact isPiece_of_digits (isDigitOf_neutral ho) (List.take_prefix _ _) e
  · obtain ⟨e, he, rfl⟩ := Option.map_eq_some_iff.1 h
    exact ⟨isPiece_of_simpleEscape? he, cs, rfl⟩

theorem isPiece_of_piece? (h : piece? s = some p) : IsPiece p ∧ p.source <+: s := by
  unfold piece? at h
  split at h
  · cases h
  · cases h
  · exact isPiece_of_escape? h
  · rename_i c cs hb hescape
    split at h
    · cases h
    · rename_i hc
      cases h
      rw [Bool.not_eq_true, Bool.or_eq_false_iff, beq_eq_false_iff_ne] at hc
      refine ⟨.plain ?_ hc.1 hc.2, cs, rfl⟩
      rintro rfl
      cases cs with
      | nil => exact hb rfl rfl
      | cons d ds => exact hescape d ds rfl rfl

theorem IsPiece.source_ne_nil (h : IsPiece p) : p.source ≠ [] := by
  cases h with
  | plain => exact List.cons_ne_nil _ _
  | quote => exact List.cons_ne_nil _ _
  | escape hlength => exact List.ne_nil_of_length_pos (Nat.lt_of_lt_of_le Nat.zero_lt_two hlength)

theorem eq_of_pieces? {skip : Nat} (h : pieces? skip s = some (ps, rest)) :
    s.drop skip = ps.flatMap (·.source) ++ '"' :: rest ∧ ∀ p ∈ ps, IsPiece p := by
  induction s generalizing skip ps with
  | nil => cases h
  | cons c cs ih =>
    cases skip with
    | succ skip => exact ih h
    | zero =>
      rw [pieces?] at h
      split at h
      · rename_i hq
        cases h
        rw [beq_iff_eq.1 hq]
        exact ⟨rfl, by simp⟩
      · obtain ⟨p, hp, h⟩ := Option.bind_eq_some_iff.1 h
        obtain ⟨⟨qs, rest'⟩, hqs, h⟩ := Option.bind_eq_some_iff.1 h
        cases h
        obtain ⟨hpiece, t, ht⟩ := isPiece_of_piece? hp
        obtain ⟨hdrop, hpieces⟩ := ih hqs
        refine ⟨?_, List.forall_mem_cons.2 ⟨hpiece, hpieces⟩⟩
        obtain ⟨a, source, hs⟩ := List.exists_cons_of_ne_nil hpiece.source_ne_nil
        rw [hs] at ht hdrop
        obtain ⟨rfl, hcs⟩ := List.cons.inj ht
        change source ++ t = cs at hcs
        rw [List.length_cons, Nat.add_sub_cancel, ← hcs, List.drop_left] at hdrop
        rw [List.flatMap_cons, hs, List.append_assoc, ← hdrop, ← hcs]
        rfl

theorem pieces?_skip (xs ys : List Char) : pieces? xs.length (xs ++ ys) = pieces? 0 ys := by
  induction xs with
  | nil => rfl
  | cons x xs ih => exact ih

theorem pieces?_append (p : LiteralPiece) (cs : List Char)
    (hp : piece? (p.source ++ cs) = some p) (hs : p.source ≠ [])
    (hq : p.source.head? ≠ some '"') :
    pieces? 0 (p.source ++ cs) = (pieces? 0 cs).map fun r => (p :: r.1, r.2) := by
  obtain ⟨a, source, hs⟩ := List.exists_cons_of_ne_nil hs
  rw [hs, List.cons_append] at hp
  rw [hs] at hq
  have ha : ¬(a == '"') = true := by simpa using hq
  rw [hs, List.cons_append, pieces?, if_neg ha, hp]
  change (pieces? (p.source.length - 1) (source ++ cs) >>= fun r => some (p :: r.1, r.2)) = _
  rw [hs, List.length_cons, Nat.add_sub_cancel, pieces?_skip]
  cases pieces? 0 cs with
  | none => rfl
  | some r => rfl

def quoteEscaped (s : List Char) : List Char :=
  s.flatMap fun c => if c = '"' then ['\\', '"'] else [c]

theorem toList_escapeQuotes (s : String) :
    (DefaultValue.escapeQuotes s).toList = quoteEscaped s.toList := by
  rw [DefaultValue.escapeQuotes, String.toList_ofList]
  exact Text.replaceFrom_singleton '"' _ _

@[simp] theorem quoteEscaped_cons :
    quoteEscaped (c :: cs) = (if c = '"' then ['\\', '"'] else [c]) ++ quoteEscaped cs := rfl

theorem piece?_of_ne (hb : c ≠ '\\') (hq : c ≠ '"') (hl : isLineBreak c = false) :
    piece? (c :: cs) = some ⟨[c], .character c⟩ := by
  unfold piece?
  split
  · cases ‹c :: cs = []›
  · exact absurd (List.cons.inj ‹c :: cs = ['\\']›).1 hb
  · exact absurd (List.cons.inj ‹c :: cs = '\\' :: _›).1 hb
  · rename_i heq
    obtain ⟨rfl, -⟩ := List.cons.inj heq
    rw [if_neg]
    rw [Bool.not_eq_true, Bool.or_eq_false_iff, beq_eq_false_iff_ne]
    exact ⟨hq, hl⟩

theorem pieces?_quoteEscaped (h : ∀ c ∈ s, c ≠ '\\' ∧ isLineBreak c = false) :
    pieces? 0 (quoteEscaped s ++ '"' :: rest) =
      some (s.map fun c => ⟨if c = '"' then ['\\', '"'] else [c], .character c⟩, rest) := by
  induction s with
  | nil => rfl
  | cons c cs ih =>
    obtain ⟨⟨hb, hl⟩, hcs⟩ := List.forall_mem_cons.1 h
    rw [quoteEscaped_cons, List.append_assoc, List.map_cons]
    by_cases hq : c = '"'
    · subst hq
      have hp := pieces?_append ⟨['\\', '"'], .character '"'⟩ (quoteEscaped cs ++ '"' :: rest) rfl
        (by decide) (by decide)
      rw [ih hcs] at hp
      exact hp
    · have hp := pieces?_append ⟨[c], .character c⟩ (quoteEscaped cs ++ '"' :: rest)
        (piece?_of_ne hb hq hl) (List.cons_ne_nil _ _) (by simpa using hq)
      rw [ih hcs] at hp
      rw [if_neg hq]
      exact hp

theorem IsPiece.source_neutral (h : IsPiece p) : ∀ c ∈ p.source, isLineBreak c = false := by
  intro c hc
  cases h with
  | plain hb hq hl =>
    obtain rfl := List.mem_singleton.1 hc
    exact hl
  | quote => exact (by decide : ∀ c ∈ ['\\', '"'], isLineBreak c = false) c hc
  | escape hlength hsource => exact (hsource c hc).2

/-- A piece has a character to spare beside its quotes, and more than one unless each of its
backslashes stands for a quote. -/
theorem IsPiece.count_le (h : IsPiece p) :
    p.source.count '"' + 1 ≤ p.source.length ∧
      (p.source.count '"' + 1 = p.source.length → p.source.count '\\' = p.source.count '"') := by
  cases h with
  | plain hb hq hl => simp [hb, hq]
  | quote => decide
  | escape hlength hsource =>
    have hquote : p.source.count '"' = 0 :=
      List.count_eq_zero.2 fun hm => (hsource _ hm).1 rfl
    omega

theorem count_pieces_le (h : ∀ p ∈ ps, IsPiece p) :
    (ps.flatMap (·.source)).count '"' + ps.length ≤ (ps.flatMap (·.source)).length ∧
      ((ps.flatMap (·.source)).count '"' + ps.length = (ps.flatMap (·.source)).length →
        (ps.flatMap (·.source)).count '\\' = (ps.flatMap (·.source)).count '"') := by
  induction ps with
  | nil => decide
  | cons p ps ih =>
    obtain ⟨hp, hps⟩ := List.forall_mem_cons.1 h
    have hhead := hp.count_le
    have htail := ih hps
    simp only [List.flatMap_cons, List.count_append, List.length_append, List.length_cons]
    omega

theorem quoteEscaped_count (s : List Char) :
    (quoteEscaped s).length = s.length + s.count '"' ∧
      (quoteEscaped s).count '"' = s.count '"' ∧
      (quoteEscaped s).count '\\' = s.count '\\' + s.count '"' := by
  induction s with
  | nil => decide
  | cons c cs ih =>
    obtain ⟨hlength, hquote, hbackslash⟩ := ih
    rw [quoteEscaped_cons, List.length_append, List.count_append, List.count_append, hlength,
      hquote, hbackslash, List.length_cons, List.count_cons, List.count_cons]
    by_cases hq : c = '"'
    · subst hq
      have hlength : List.length ['\\', '"'] = 2 := rfl
      have hquote : List.count '"' ['\\', '"'] = 1 := by decide
      have hbackslash : List.count '\\' ['\\', '"'] = 1 := by decide
      have hne : ('"' == '\\') = false := by decide
      simp only [hlength, hquote, hbackslash, hne, beq_self_eq_true, if_true, Bool.false_eq_true,
        if_false]
      omega
    · have hne : (c == '"') = false := beq_false_of_ne hq
      simp only [if_neg hq, hne, List.length_singleton, List.count_singleton, Bool.false_eq_true,
        if_false]
      omega

theorem mem_quoteEscaped (h : c ∈ s) : c ∈ quoteEscaped s := by
  refine List.mem_flatMap.2 ⟨c, h, ?_⟩
  split
  · subst c
    decide
  · exact List.mem_singleton_self c

/-- A text whose quotes are escaped is read back exactly if nothing in it means something else in a
literal. -/
theorem read?_quoteEscaped_iff :
    read? (quoteEscaped s ++ '"' :: rest) = some (s.map .character, rest) ↔
      ∀ c ∈ s, c ≠ '\\' ∧ isLineBreak c = false := by
  constructor
  · intro h
    obtain ⟨⟨ps, rest'⟩, hps, heq⟩ := Option.map_eq_some_iff.1 h
    obtain ⟨hmap, rfl⟩ := Prod.mk.inj heq
    obtain ⟨hsource, hpieces⟩ := eq_of_pieces? hps
    have hsource : quoteEscaped s = ps.flatMap (·.source) := List.append_cancel_right hsource
    have hlength : ps.length = s.length := by
      simpa using congrArg List.length hmap
    -- There are as many pieces as characters of the text. This uses up all that escaping has added,
    -- so that every backslash stands for a quote.
    have hcount := quoteEscaped_count s
    have hle := count_pieces_le hpieces
    rw [← hsource] at hle
    have hbackslash : s.count '\\' = 0 := by omega
    intro c hc
    constructor
    · rintro rfl
      exact List.count_eq_zero.1 hbackslash hc
    · have hm := mem_quoteEscaped hc
      rw [hsource, List.mem_flatMap] at hm
      obtain ⟨p, hp, hm⟩ := hm
      exact (hpieces p hp).source_neutral c hm
  · intro h
    rw [read?, pieces?_quoteEscaped h, Option.map_some, List.map_map]
    rfl

end StringLiteral

namespace DefaultValue

open StringLiteral

theorem toScript_rel {P : String → String → Prop} (hs : ∀ e ∈ spellings.entries, P e.1 e.2)
    (hv : ∀ value, P value value) (value : String) : P value (toScript value) := by
  rw [toScript]
  cases h : spellings.get? value with
  | none => exact hv value
  | some s => exact hs _ (Table.mem_entries_of_get? h)

theorem toList_declarationText (value : String) :
    (declarationText value).toList = quoteEscaped (toScript value).toList :=
  toList_escapeQuotes _

/-- A default value reaches the engine as the script value of what the header wrote, exactly if the
header wrote neither a backslash nor a line break. -/
theorem read?_declarationText_iff (value : String) (rest : List Char) :
    read? ((declarationText value).toList ++ '"' :: rest) =
        some ((toScript value).toList.map .character, rest) ↔
      ∀ c ∈ value.toList, c ≠ '\\' ∧ isLineBreak c = false := by
  rw [toList_declarationText, read?_quoteEscaped_iff]
  exact toScript_rel (P := fun value s => (∀ c ∈ s.toList, c ≠ '\\' ∧ isLineBreak c = false) ↔
    ∀ c ∈ value.toList, c ≠ '\\' ∧ isLineBreak c = false) (by decide) (fun _ => .rfl) value

/-- The escapes of a string in the header are read as if they were those of the literal around it:
the string of a line feed comes to hold one, and a quote inside a string ends the literal. -/
theorem read?_declarationText_escapes :
    let lineFeed := "\"\\n\""
    let quotation := "\"say \\\"hi\\\"\""
    (∀ c ∈ lineFeed.toList ++ quotation.toList, isLineBreak c = false) ∧
      read? ((declarationText lineFeed).toList ++ ['"']) =
        some (['"', '\n', '"'].map .character, []) ∧
      (toScript lineFeed).toList = ['"', '\\', 'n', '"'] ∧
      read? ((declarationText quotation).toList ++ ['"']) =
        some ("\"say \\".toList.map .character, "hi\\\\\"\\\"\"".toList) ∧
      (toScript quotation).toList = quotation.toList := by
  decide

end DefaultValue

end ScriptGlue

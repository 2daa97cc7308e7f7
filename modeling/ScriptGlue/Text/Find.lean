namespace ScriptGlue.Text

/-- `needle` occurs somewhere in the text; the empty needle occurs everywhere. -/
def occursIn (needle : List Char) : List Char → Bool
  | [] => needle.isEmpty
  | c :: cs => needle.isPrefixOf (c :: cs) || occursIn needle cs

theorem occursIn_iff {needle s : List Char} : occursIn needle s = true ↔ needle <:+: s := by
  induction s with
  | nil => simp [occursIn]
  | cons c cs ih => simp [occursIn, ih, List.infix_cons_iff]

def contains (s needle : String) : Bool := occursIn needle.toList s.toList

theorem contains_iff {s needle : String} :
    contains s needle = true ↔ needle.toList <:+: s.toList := occursIn_iff

def startsWith (s start : String) : Bool := start.toList.isPrefixOf s.toList

def endsWith (s tail : String) : Bool := tail.toList.isSuffixOf s.toList

/-- Replaces the occurrences of `old` from left to right, without overlap; `skip` counts the
characters of the last occurrence that are still to be passed over. -/
def replaceFrom (old new : List Char) : Nat → List Char → List Char
  | _, [] => []
  | skip + 1, _ :: cs => replaceFrom old new skip cs
  | 0, c :: cs =>
    if !old.isEmpty && old.isPrefixOf (c :: cs) then
      new ++ replaceFrom old new (old.length - 1) cs
    else c :: replaceFrom old new 0 cs

theorem replaceFrom_cons_of_not_prefix {old new : List Char} {c : Char} {cs : List Char}
    (h : ¬old <+: c :: cs) :
    replaceFrom old new 0 (c :: cs) = c :: replaceFrom old new 0 cs := by
  simp [replaceFrom, h]

theorem replaceFrom_singleton (a : Char) (new s : List Char) :
    replaceFrom [a] new 0 s = s.flatMap fun c => if c = a then new else [c] := by
  induction s with
  | nil => rfl
  | cons c cs ih =>
    by_cases h : c = a
    · subst c
      simp [replaceFrom, ih]
    · simp [replaceFrom, ih, h, Ne.symm h]

def replaceAll (old new : String) (s : List Char) : List Char :=
  replaceFrom old.toList new.toList 0 s

def unixLines : List Char → List Char
  | [] => []
  | '\r' :: '\n' :: cs => '\n' :: unixLines cs
  | '\r' :: cs => '\n' :: unixLines cs
  | c :: cs => c :: unixLines cs

def normalizeNewlines (s : String) : String := String.ofList (unixLines s.toList)

end ScriptGlue.Text

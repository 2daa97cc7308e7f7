import Mathlib.Tactic.SplitIfs
import ScriptGlue.Header.Sighting

namespace ScriptGlue

/-- A node, then the node above it, and so on up to the root. -/
abbrev NodePath := List Cursor

namespace Cursor

mutual

/-- The nodes of a tree that stands below others, each one before its children. -/
def pathsUnder (above : NodePath) : Cursor → List NodePath
  | .node i cs => (.node i cs :: above) :: pathsOfAll (.node i cs :: above) cs

def pathsOfAll (above : NodePath) : List Cursor → List NodePath
  | [] => []
  | c :: cs => c.pathsUnder above ++ pathsOfAll above cs

end

def paths (c : Cursor) : List NodePath := c.pathsUnder []

end Cursor

namespace CollectionRules

variable (r : CollectionRules)

/-- The walk passes through the node: a translation unit, or a namespace that is looked at. -/
def Opens (i : CursorInfo) : Prop :=
  i.kind = .translationUnit ∨ i.kind = .namespaceDecl ∧ r.admits i = true

def IsOpen (above : NodePath) : Prop := ∀ a ∈ above, r.Opens a.info

/-- A class that is defined, has a name and is not excluded. -/
def Takes (i : CursorInfo) : Prop :=
  i.kind.isClass = true ∧ i.isDefinition = true ∧ i.spelling ≠ "" ∧ r.isExcluded i.spelling = false

/-- The class at the head is reached: it is looked at and stands below nodes that the walk passes
through, or it stands in a class that is reached. -/
def Reaches : NodePath → Prop
  | [] => False
  | c :: above => r.Takes c.info ∧ (r.admits c.info = true ∧ r.IsOpen above ∨ Reaches above)

instance (i : CursorInfo) : Decidable (r.Opens i) := inferInstanceAs (Decidable (_ ∨ _ ∧ _))

instance (above : NodePath) : Decidable (r.IsOpen above) :=
  inferInstanceAs (Decidable (∀ a ∈ above, r.Opens a.info))

instance (i : CursorInfo) : Decidable (r.Takes i) := inferInstanceAs (Decidable (_ ∧ _ ∧ _ ∧ _))

instance decidableReaches : ∀ path, Decidable (r.Reaches path)
  | [] => .isFalse id
  | c :: above =>
    have := decidableReaches above
    inferInstanceAs (Decidable (r.Takes c.info ∧ (r.admits c.info = true ∧ r.IsOpen above ∨ _)))

/-- The class at the head is internal. It is nested if the node above it is a class. -/
def isInternalAt : NodePath → Bool
  | [] => false
  | c :: above => isInternal c.info (above.head?.any (·.info.kind.isClass))

/-- The node belongs to no class and is looked at. -/
def IsOutermost (i : CursorInfo) (above : NodePath) : Prop := r.admits i = true ∧ r.IsOpen above

/-- The node is a public member of a class that is reached and not internal. -/
def IsPublicMember (i : CursorInfo) (above : NodePath) : Prop :=
  r.Reaches above ∧ isInternalAt above = false ∧ i.isPublic = true

instance (i : CursorInfo) (above : NodePath) : Decidable (r.IsOutermost i above) :=
  inferInstanceAs (Decidable (_ ∧ _))

instance (i : CursorInfo) (above : NodePath) : Decidable (r.IsPublicMember i above) :=
  inferInstanceAs (Decidable (_ ∧ _ ∧ _))

def ownerName (above : NodePath) : String := (above.head?.map (·.info.spelling)).getD ""

def methodKind (i : CursorInfo) : FunctionKind := if i.isStatic then .static else .method

/-- What one node shows, whatever the other nodes show. -/
def shownAt : NodePath → List Sighting
  | [] => []
  | .node i cs :: above =>
    if i.kind.isClass then
      if (r.IsOutermost i above ∨ r.Reaches above) ∧ i.isDefinition = true ∧ i.spelling ≠ "" then
        if r.isExcluded i.spelling then [.excludedClass i.spelling]
        else [r.classSighting i cs (isInternalAt (.node i cs :: above))]
      else []
    else if i.kind = .enumDecl then
      if r.IsOutermost i above ∨ r.Reaches above ∧ i.isPublic = true then r.enumSightings i cs
      else []
    else if i.kind = .typeAlias ∨ i.kind = .typedefDecl then
      if r.IsOutermost i above then r.aliasSightings i else []
    else if i.kind = .functionDecl then
      if r.IsOutermost i above then r.functionSightings i .null .free else []
    else if i.kind = .method then
      if r.IsPublicMember i above then
        r.functionSightings i (.string (ownerName above)) (methodKind i)
      else []
    else if i.kind = .fieldDecl then
      if r.IsPublicMember i above then r.fieldSightings i (ownerName above) else []
    else []

variable {r} {above : NodePath} {i : CursorInfo} {cs : List Cursor}

theorem isOpen_cons {c : Cursor} : r.IsOpen (c :: above) ↔ r.Opens c.info ∧ r.IsOpen above :=
  List.forall_mem_cons

theorem not_opens_of_isClass (hk : i.kind.isClass = true) : ¬r.Opens i := by
  rintro (ho | ⟨ho, -⟩)
  · rw [ho] at hk
    cases hk
  · rw [ho] at hk
    cases hk

theorem IsOpen.not_reaches (h : r.IsOpen above) : ¬r.Reaches above := by
  cases above with
  | nil => exact id
  | cons c above => exact fun hr => not_opens_of_isClass hr.1.1 (isOpen_cons.1 h).1

theorem Reaches.not_isOpen (h : r.Reaches above) : ¬r.IsOpen above := fun ho => ho.not_reaches h

section Dead

theorem shownAt_of_dead (ho : ¬r.IsOpen above) (hr : ¬r.Reaches above) (c : Cursor) :
    r.shownAt (c :: above) = [] := by
  obtain ⟨i, cs⟩ := c
  have hout : ¬r.IsOutermost i above := fun h => ho h.2
  have hmember : ¬r.IsPublicMember i above := fun h => hr h.1
  simp only [shownAt, hout, hr, hmember, false_and, or_self, if_false, ite_self]

theorem reaches_of_dead (ho : ¬r.IsOpen above) (hr : ¬r.Reaches above) (c : Cursor) :
    ¬r.Reaches (c :: above) := fun h => h.2.elim (fun h => ho h.2) hr

mutual

theorem flatMap_shownAt_of_dead {above : NodePath} (ho : ¬r.IsOpen above) (hr : ¬r.Reaches above) :
    ∀ c : Cursor, (c.pathsUnder above).flatMap r.shownAt = []
  | .node i cs => by
    rw [Cursor.pathsUnder, List.flatMap_cons, shownAt_of_dead ho hr, List.nil_append]
    exact flatMap_shownAt_of_allDead (fun h => ho (isOpen_cons.1 h).2) (reaches_of_dead ho hr _) cs

theorem flatMap_shownAt_of_allDead {above : NodePath} (ho : ¬r.IsOpen above)
    (hr : ¬r.Reaches above) :
    ∀ cs : List Cursor, (Cursor.pathsOfAll above cs).flatMap r.shownAt = []
  | [] => rfl
  | c :: cs => by
    rw [Cursor.pathsOfAll, List.flatMap_append, flatMap_shownAt_of_dead ho hr c,
      flatMap_shownAt_of_allDead ho hr cs, List.append_nil]

end

theorem flatMap_shownAt_of_closed (ho : ¬r.IsOpen (.node i cs :: above))
    (hr : ¬r.Reaches (.node i cs :: above)) :
    ((Cursor.node i cs).pathsUnder above).flatMap r.shownAt = r.shownAt (.node i cs :: above) := by
  rw [Cursor.pathsUnder, List.flatMap_cons, flatMap_shownAt_of_allDead ho hr, List.append_nil]

theorem not_reaches_of_not_isClass (hc : i.kind.isClass = false) :
    ¬r.Reaches (.node i cs :: above) := by
  intro h
  have hclass : i.kind.isClass = true := h.1.1
  rw [hc] at hclass
  cases hclass

end Dead

section Classes

theorem classSightings_node (nested : Bool) (i : CursorInfo) (cs : List Cursor) :
    r.classSightings nested (.node i cs) =
      if i.isDefinition = true ∧ i.spelling ≠ "" then
        if r.isExcluded i.spelling then [.excludedClass i.spelling]
        else r.classSighting i cs (isInternal i nested) ::
          r.memberSightings i.spelling (isInternal i nested) cs
      else [] := by
  rw [classSightings]
  by_cases hd : i.isDefinition = true <;> by_cases hn : i.spelling = "" <;> simp [hd, hn]

theorem memberSightings_node (owner : String) (internal : Bool) (i : CursorInfo)
    (cs rest : List Cursor) (h : i.kind.isClass = false) :
    r.memberSightings owner internal (.node i cs :: rest) =
      (if i.kind = .enumDecl then if i.isPublic = true then r.enumSightings i cs else []
        else if i.kind = .method then
          if internal = false ∧ i.isPublic = true then
            r.functionSightings i (.string owner) (methodKind i) else []
        else if i.kind = .fieldDecl then
          if internal = false ∧ i.isPublic = true then r.fieldSightings i owner else []
        else []) ++ r.memberSightings owner internal rest := by
  rw [memberSightings, h]
  cases hp : i.isPublic <;> cases internal <;> cases hk : i.kind <;> simp [methodKind]

theorem shownAt_of_isOutermost_or_reaches (hc : i.kind.isClass = true)
    (h : r.IsOutermost i above ∨ r.Reaches above) :
    r.shownAt (.node i cs :: above) =
      if i.isDefinition = true ∧ i.spelling ≠ "" then
        if r.isExcluded i.spelling then [.excludedClass i.spelling]
        else [r.classSighting i cs (isInternalAt (.node i cs :: above))]
      else [] := by
  simp only [shownAt, hc, h, if_true, true_and]

theorem shownAt_of_reaches {p : Cursor} (hr : r.Reaches (p :: above))
    (hc : i.kind.isClass = false) :
    r.shownAt (.node i cs :: p :: above) =
      if i.kind = .enumDecl then if i.isPublic = true then r.enumSightings i cs else []
      else if i.kind = .method then
        if isInternalAt (p :: above) = false ∧ i.isPublic = true then
          r.functionSightings i (.string p.info.spelling) (methodKind i) else []
      else if i.kind = .fieldDecl then
        if isInternalAt (p :: above) = false ∧ i.isPublic = true then
          r.fieldSightings i p.info.spelling else []
      else [] := by
  have hout : ¬r.IsOutermost i (p :: above) := fun h => hr.not_isOpen h.2
  simp only [shownAt, hc, hout, IsPublicMember, hr, ownerName, List.head?_cons, Option.map_some,
    Option.getD_some, Bool.false_eq_true, if_false, false_or, true_and]
  cases hk : i.kind <;> simp

mutual

theorem flatMap_shownAt_of_class {above : NodePath} :
    ∀ c : Cursor, c.info.kind.isClass = true →
      r.IsOutermost c.info above ∨ r.Reaches above →
      (c.pathsUnder above).flatMap r.shownAt =
        r.classSightings (above.head?.any (·.info.kind.isClass)) c
  | .node i cs, hc, h => by
    have hc : i.kind.isClass = true := hc
    have h : r.IsOutermost i above ∨ r.Reaches above := h
    rw [classSightings_node]
    -- A class that is not taken closes all that is below it.
    by_cases htaken : r.Takes i
    · have hr : r.Reaches (.node i cs :: above) := ⟨htaken, h⟩
      rw [Cursor.pathsUnder, List.flatMap_cons, shownAt_of_isOutermost_or_reaches hc h]
      obtain ⟨-, hd, hn, he⟩ := htaken
      have hdn : i.isDefinition = true ∧ i.spelling ≠ "" := ⟨hd, hn⟩
      simp only [flatMap_shownAt_of_reaches hr cs, hdn, he, Bool.false_eq_true, if_false, and_self,
        ne_eq, not_false_eq_true, if_true]
      rfl
    · rw [flatMap_shownAt_of_closed (fun ho => not_opens_of_isClass hc (isOpen_cons.1 ho).1)
        (fun hr => htaken hr.1), shownAt_of_isOutermost_or_reaches hc h]
      split
      · rename_i hdn
        cases he : r.isExcluded i.spelling with
        | true => rfl
        | false => exact absurd ⟨hc, hdn.1, hdn.2, he⟩ htaken
      · rfl

theorem flatMap_shownAt_of_reaches {p : Cursor} {above : NodePath} (hr : r.Reaches (p :: above)) :
    ∀ cs : List Cursor, (Cursor.pathsOfAll (p :: above) cs).flatMap r.shownAt =
      r.memberSightings p.info.spelling (isInternalAt (p :: above)) cs
  | [] => by
    rw [memberSightings]
    rfl
  | .node i cs :: rest => by
    rw [Cursor.pathsOfAll, List.flatMap_append, flatMap_shownAt_of_reaches hr rest]
    cases hc : i.kind.isClass with
    | true =>
      have hnested : ((p :: above).head?.any (·.info.kind.isClass)) = true := hr.1.1
      rw [flatMap_shownAt_of_class (.node i cs) hc (.inr hr), memberSightings, hc, hnested]
      rfl
    | false =>
      rw [flatMap_shownAt_of_closed (fun ho => hr.not_isOpen (isOpen_cons.1 ho).2)
        (not_reaches_of_not_isClass hc), shownAt_of_reaches hr hc,
        memberSightings_node _ _ _ _ _ hc]

end

end Classes

section Open

theorem sightings_of_opens (h : r.Opens i) :
    r.sightings (.node i cs) = r.sightingsOfAll cs := by
  rw [sightings]
  rcases h with hk | ⟨hk, ha⟩
  · simp [hk, CursorKind.isContainer]
  · simp [hk, ha, CursorKind.isContainer]

theorem shownAt_of_opens (h : r.Opens i) : r.shownAt (.node i cs :: above) = [] := by
  have hk : i.kind = .translationUnit ∨ i.kind = .namespaceDecl := h.imp_right And.left
  rcases hk with hk | hk <;> simp [shownAt, hk, CursorKind.isClass]

/-- Outside of classes a node that the walk does not pass through shows what its kind allows if it
is looked at. -/
theorem sightings_of_not_opens (h : ¬r.Opens i) :
    r.sightings (.node i cs) =
      if r.admits i = true then
        if i.kind.isClass then r.classSightings false (.node i cs)
        else if i.kind = .enumDecl then r.enumSightings i cs
        else if i.kind = .typeAlias ∨ i.kind = .typedefDecl then r.aliasSightings i
        else if i.kind = .functionDecl then r.functionSightings i .null .free
        else []
      else [] := by
  obtain ⟨hunit, hspace⟩ := not_or.1 h
  rw [sightings]
  cases ha : r.admits i with
  | false => simp [hunit]
  | true =>
    have hspace : i.kind ≠ .namespaceDecl := fun hk => hspace ⟨hk, ha⟩
    simp [CursorKind.isContainer, hunit, hspace]

theorem shownAt_of_isOpen (ho : r.IsOpen above) (hc : i.kind.isClass = false) :
    r.shownAt (.node i cs :: above) =
      if r.admits i = true then
        if i.kind = .enumDecl then r.enumSightings i cs
        else if i.kind = .typeAlias ∨ i.kind = .typedefDecl then r.aliasSightings i
        else if i.kind = .functionDecl then r.functionSightings i .null .free
        else []
      else [] := by
  have hr := ho.not_reaches
  simp only [shownAt, hc, IsPublicMember, IsOutermost, hr, ho, Bool.false_eq_true, if_false,
    false_and, and_true, or_false]
  cases hk : i.kind <;> cases ha : r.admits i <;> simp

theorem IsOpen.not_nested (h : r.IsOpen above) :
    (above.head?.any (·.info.kind.isClass)) = false := by
  cases above with
  | nil => rfl
  | cons c above =>
    exact Bool.eq_false_iff.2 fun hc => not_opens_of_isClass hc (isOpen_cons.1 h).1

theorem flatMap_shownAt_of_not_admits (ho : r.IsOpen above) (hopens : ¬r.Opens i)
    (ha : r.admits i = false) : ((Cursor.node i cs).pathsUnder above).flatMap r.shownAt = [] := by
  have hreaches : ¬r.Reaches (.node i cs :: above) := fun h =>
    h.2.elim (fun h => by rw [Cursor.info, ha] at h; cases h.1) ho.not_reaches
  rw [flatMap_shownAt_of_closed (fun h => hopens (isOpen_cons.1 h).1) hreaches]
  cases hc : i.kind.isClass with
  | false => simp [shownAt_of_isOpen ho hc, ha]
  | true => simp [shownAt, hc, IsOutermost, ha, ho.not_reaches]

mutual

theorem flatMap_shownAt_of_isOpen {above : NodePath} (ho : r.IsOpen above) :
    ∀ c : Cursor, (c.pathsUnder above).flatMap r.shownAt = r.sightings c
  | .node i cs => by
    -- All nodes above are open, so a class that is met here stands in no class.
    by_cases hopens : r.Opens i
    · have hbelow : r.IsOpen (.node i cs :: above) := isOpen_cons.2 ⟨hopens, ho⟩
      rw [Cursor.pathsUnder, List.flatMap_cons, shownAt_of_opens hopens, sightings_of_opens hopens,
        flatMap_shownAt_of_allOpen hbelow cs, List.nil_append]
    rw [sightings_of_not_opens hopens]
    cases ha : r.admits i with
    | false => exact flatMap_shownAt_of_not_admits ho hopens ha
    | true =>
      cases hc : i.kind.isClass with
      | true =>
        rw [flatMap_shownAt_of_class (.node i cs) hc (.inl ⟨ha, ho⟩), ho.not_nested]
        rfl
      | false =>
        rw [flatMap_shownAt_of_closed (fun h => hopens (isOpen_cons.1 h).1)
          (not_reaches_of_not_isClass hc), shownAt_of_isOpen ho hc, ha]
        rfl

theorem flatMap_shownAt_of_allOpen {above : NodePath} (ho : r.IsOpen above) :
    ∀ cs : List Cursor, (Cursor.pathsOfAll above cs).flatMap r.shownAt = r.sightingsOfAll cs
  | [] => by
    rw [sightingsOfAll]
    rfl
  | c :: cs => by
    rw [Cursor.pathsOfAll, List.flatMap_append, flatMap_shownAt_of_isOpen ho c,
      flatMap_shownAt_of_allOpen ho cs, sightingsOfAll]

end

end Open

theorem mem_of_mem_ite {α : Type} {p : Prop} [Decidable p] {x : α} {xs : List α}
    (h : x ∈ if p then xs else []) : x ∈ xs := by
  split at h
  · exact h
  · exact absurd h List.not_mem_nil

theorem shownAt_cases {s : Sighting} {P : Sighting → Prop}
    (hs : s ∈ r.shownAt (.node i cs :: above)) (excluded : P (.excludedClass i.spelling))
    (ofClass : r.Reaches (.node i cs :: above) →
      P (r.classSighting i cs (isInternalAt (.node i cs :: above))))
    (ofEnum : ∀ s ∈ r.enumSightings i cs, P s) (ofAlias : ∀ s ∈ r.aliasSightings i, P s)
    (ofFunction : ∀ owner kind, ∀ s ∈ r.functionSightings i owner kind, P s)
    (ofField : ∀ owner, ∀ s ∈ r.fieldSightings i owner, P s) : P s := by
  rw [shownAt] at hs
  split at hs
  · rename_i hclass
    split at hs
    · rename_i hwalk
      obtain ⟨hplace, hdefined, hnamed⟩ := hwalk
      split at hs
      · rw [List.mem_singleton.1 hs]
        exact excluded
      · rename_i hkept
        have htakes : r.Takes i := ⟨hclass, hdefined, hnamed, Bool.eq_false_iff.2 hkept⟩
        rw [List.mem_singleton.1 hs]
        exact ofClass ⟨htakes, hplace⟩
    · exact absurd hs List.not_mem_nil
  split at hs
  · exact ofEnum s (mem_of_mem_ite hs)
  split at hs
  · exact ofAlias s (mem_of_mem_ite hs)
  split at hs
  · exact ofFunction _ _ s (mem_of_mem_ite hs)
  split at hs
  · exact ofFunction _ _ s (mem_of_mem_ite hs)
  · exact ofField _ s (mem_of_mem_ite (mem_of_mem_ite hs))

theorem classDecl_of_mem_shownAt {n : NodePath} {key : String} {d : ClassDecl}
    (h : .classDecl key d ∈ r.shownAt n) :
    ∃ i cs above, n = .node i cs :: above ∧ r.Reaches n ∧
      .classDecl key d = r.classSighting i cs (isInternalAt n) := by
  match n with
  | [] => exact absurd h List.not_mem_nil
  | .node i cs :: above =>
    refine ⟨i, cs, above, rfl, ?_⟩
    refine shownAt_cases (P := fun s => .classDecl key d = s → r.Reaches (.node i cs :: above) ∧
      .classDecl key d = r.classSighting i cs (isInternalAt (.node i cs :: above))) h nofun
      And.intro ?_ ?_ ?_ ?_ rfl
    -- Every other kind shows declarations of another kind.
    · rintro _ hs rfl
      simp [enumSightings] at hs
    · rintro _ hs rfl
      simp [aliasSightings] at hs
    · rintro _ _ _ hs rfl
      simp [functionSightings] at hs
    · rintro _ _ hs rfl
      simp [fieldSightings] at hs

theorem sightings_eq (r : CollectionRules) (c : Cursor) :
    r.sightings c = c.paths.flatMap r.shownAt := by
  have hroot : r.IsOpen [] := List.forall_mem_nil _
  exact (flatMap_shownAt_of_isOpen hroot c).symm

end CollectionRules

end ScriptGlue

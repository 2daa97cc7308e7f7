import Mathlib.Data.List.Infix
import ScriptGlue.Conventions
import ScriptGlue.Proofs.Separation

namespace ScriptGlue

namespace Path

variable {s w : List Char} {sep : Char}

/-- Slashes and backslashes separate components. -/
def isSeparator (c : Char) : Bool := c == '/' || c == '\\'

/-- The components of a path as it is written, of which the last one is the file. -/
def components (path : String) : List String :=
  (path.toList.splitOnP isSeparator).map String.ofList

def directories (path : String) : List String := (components path).dropLast

/-- A component that is not the last one begins the text or comes after a slash, and a slash comes
after it. -/
theorem occurs_of_mem_dropLast (hw : w ∈ (s.splitOn '/').dropLast) :
    w ++ ['/'] <+: s ∨ '/' :: (w ++ ['/']) <:+: s := by
  induction s using Text.splitOn_induction '/' with
  | whole s hs =>
    rw [List.splitOn_eq_singleton hs] at hw
    cases hw
  | cut u t hu ih =>
    rw [List.splitOn_append_cons_self_of_not_mem hu,
      List.dropLast_cons_of_ne_nil (List.splitOn_ne_nil '/' t)] at hw
    rcases List.mem_cons.1 hw with rfl | hw
    · exact .inl ⟨t, by simp⟩
    · rcases ih hw with ⟨t, rfl⟩ | ⟨s, t, rfl⟩
      · exact .inr ⟨u, t, by simp⟩
      · exact .inr ⟨u ++ '/' :: s, t, by simp⟩

theorem mem_dropLast_splitOn (hw : '/' ∉ w) :
    w ∈ (s.splitOn '/').dropLast ↔ w ++ ['/'] <+: s ∨ '/' :: (w ++ ['/']) <:+: s := by
  refine ⟨occurs_of_mem_dropLast, ?_⟩
  -- The slash after the word ends it, and what comes after that slash has a last component.
  have hcut (t : List Char) : (w ++ ['/'] ++ t).splitOn '/' = w :: t.splitOn '/' := by
    rw [List.append_assoc, List.singleton_append, List.splitOn_append_cons_self_of_not_mem hw]
  rintro (⟨t, rfl⟩ | ⟨p, t, rfl⟩)
  · rw [hcut, List.dropLast_cons_of_ne_nil (List.splitOn_ne_nil '/' t)]
    exact List.mem_cons_self
  · have hsplit : (p ++ '/' :: (w ++ ['/']) ++ t).splitOn '/' =
        p.splitOn '/' ++ w :: t.splitOn '/' := by
      rw [List.append_assoc, List.cons_append, List.splitOn_append_cons_self, hcut]
    rw [hsplit, List.dropLast_append_cons,
      List.dropLast_cons_of_ne_nil (List.splitOn_ne_nil '/' t)]
    exact List.mem_append_right _ List.mem_cons_self

theorem splitOn_map_slash (s : List Char) :
    (s.map fun c => if c == '\\' then '/' else c).splitOn '/' = s.splitOnP isSeparator := by
  induction s with
  | nil => rfl
  | cons c s ih =>
    rw [List.map_cons, List.splitOn_cons_eq_if_modifyHead, List.splitOnP_cons_eq_if_modifyHead, ih]
    by_cases hback : c = '\\'
    · subst c
      rfl
    · by_cases hslash : c = '/' <;> simp [isSeparator, hback, hslash]

theorem components_append (hsep : isSeparator sep = true) (front path : String) :
    components (front ++ String.singleton sep ++ path) = components front ++ components path := by
  rw [components, String.toList_append, String.toList_append, String.toList_singleton,
    List.append_assoc, List.singleton_append, List.splitOnP_append_cons _ _ hsep, List.map_append]
  rfl

theorem components_ne_nil (path : String) : components path ≠ [] :=
  mt List.map_eq_nil_iff.1 (List.splitOnP_ne_nil _ _)

theorem directories_append (hsep : isSeparator sep = true) (front path : String) :
    directories (front ++ String.singleton sep ++ path) = components front ++ directories path := by
  rw [directories, components_append hsep, List.dropLast_append_of_ne_nil (components_ne_nil path)]
  rfl

end Path

namespace Conventions

variable {c : Conventions} {table : List (String × String)}

/-- Each guard is for the directories of one name. The table gives the name and the symbol. -/
structure HasGuardTable (c : Conventions) (table : List (String × String)) : Prop where
  guards : c.guards = table.map fun e => ⟨e.1 ++ "/", e.2⟩
  names : ∀ e ∈ table, '/' ∉ e.1.toList

theorem find?_congr {α : Type} {p q : α → Bool} {xs : List α} (h : ∀ x ∈ xs, p x = q x) :
    xs.find? p = xs.find? q := by
  induction xs with
  | nil => rfl
  | cons x xs ih =>
    obtain ⟨hx, hxs⟩ := List.forall_mem_cons.1 h
    rw [List.find?_cons, List.find?_cons, hx, ih hxs]

theorem covers_iff {name : String} (hname : '/' ∉ name.toList) (symbol : String) (s : List Char) :
    (Guard.mk (name ++ "/") symbol).covers (String.ofList s) = true ↔
      name.toList ∈ (s.splitOn '/').dropLast := by
  rw [Path.mem_dropLast_splitOn hname, Guard.covers, Bool.or_eq_true, Text.contains_iff,
    Text.startsWith, List.isPrefixOf_iff_prefix]
  simp

theorem covers_iff_mem_directories {name : String} (hname : '/' ∉ name.toList)
    (symbol header : String) :
    (Guard.mk (name ++ "/") symbol).covers
        (String.ofList (header.toList.map fun c => if c == '\\' then '/' else c)) = true ↔
      name ∈ Path.directories header := by
  rw [covers_iff hname, Path.splitOn_map_slash, Path.directories, Path.components,
    ← List.map_dropLast, List.mem_map]
  constructor
  · exact fun h => ⟨_, h, String.ofList_toList⟩
  · rintro ⟨w, hw, rfl⟩
    rwa [String.toList_ofList]

theorem HasGuardTable.guardSymbol?_eq (h : c.HasGuardTable table) (header : String) :
    c.guardSymbol? header = (table.find? (·.1 ∈ Path.directories header)).map (·.2) := by
  by_cases hempty : header = ""
  · subst header
    have hnone : table.find? (·.1 ∈ Path.directories "") = none :=
      List.find?_eq_none.2 fun e _ => by simp [Path.directories, Path.components]
    rw [hnone]
    rfl
  · have hcovers : ∀ e ∈ table, (Guard.mk (e.1 ++ "/") e.2).covers
        (String.ofList (header.toList.map fun c => if c == '\\' then '/' else c)) =
          decide (e.1 ∈ Path.directories header) := by
      intro e he
      rw [Bool.eq_iff_iff, decide_eq_true_eq]
      exact covers_iff_mem_directories (h.names e he) e.2 header
    rw [← find?_congr hcovers, guardSymbol?, if_neg (by simpa using hempty), h.guards]
    dsimp only
    rw [List.find?_map, Option.map_map]
    rfl

theorem HasGuardTable.guardSymbol?_eq_none_iff (h : c.HasGuardTable table) {header : String} :
    c.guardSymbol? header = none ↔ ∀ e ∈ table, e.1 ∉ Path.directories header := by
  rw [h.guardSymbol?_eq, Option.map_eq_none_iff, List.find?_eq_none]
  simp only [decide_eq_true_eq]

/-- A header gets the guard of the first entry whose name is one of its directories. Below further
directories it still has a guard, which is the same one unless an entry names one of these. -/
theorem guardSymbol?_directories (h : c.HasGuardTable table) (header : String) :
    c.guardSymbol? header = (table.find? (·.1 ∈ Path.directories header)).map (·.2) ∧
      (c.guardSymbol? header = none ↔ ∀ e ∈ table, e.1 ∉ Path.directories header) ∧
      ∀ (front : String) (sep : Char), Path.isSeparator sep = true →
        let path := front ++ String.singleton sep ++ header
        (c.guardSymbol? header ≠ none → c.guardSymbol? path ≠ none) ∧
          ((∀ e ∈ table, e.1 ∉ Path.components front) →
            c.guardSymbol? path = c.guardSymbol? header) := by
  refine ⟨h.guardSymbol?_eq header, h.guardSymbol?_eq_none_iff, fun front sep hsep => ?_⟩
  intro path
  have hpath : Path.directories path = Path.components front ++ Path.directories header :=
    Path.directories_append hsep front header
  constructor
  · refine mt fun hnone => ?_
    rw [h.guardSymbol?_eq_none_iff, hpath] at hnone
    rw [h.guardSymbol?_eq_none_iff]
    exact fun e he hm => hnone e he (List.mem_append_right _ hm)
  · intro hfront
    rw [h.guardSymbol?_eq, h.guardSymbol?_eq, hpath]
    refine congrArg _ (find?_congr fun e he => ?_)
    rw [decide_eq_decide, List.mem_append, or_iff_right (hfront e he)]

def standardTable : List (String × String) := [
  ("Database", "URHO3D_DATABASE"), ("IK", "URHO3D_IK"), ("Navigation", "URHO3D_NAVIGATION"),
  ("Network", "URHO3D_NETWORK"), ("Physics", "URHO3D_PHYSICS"), ("Urho2D", "URHO3D_URHO2D")]

theorem hasGuardTable_standard : standard.HasGuardTable standardTable :=
  ⟨rfl, by decide⟩

theorem guardSymbol?_directories_standard :
    standard.HasGuardTable standardTable ∧
      standard.guardSymbol? "Urho3D\\Physics/RigidBody.h" = some "URHO3D_PHYSICS" ∧
      standard.guardSymbol? "MyPhysics/PhysicsUtils/Physics" = none ∧
      standard.guardSymbol? "../Network/Urho3D\\Physics/RigidBody.h" ≠ none ∧
      standard.guardSymbol? "C:\\Engine\\Urho3D\\Physics/RigidBody.h" = some "URHO3D_PHYSICS" := by
  have h := hasGuardTable_standard
  have hphysics : standard.guardSymbol? "Urho3D\\Physics/RigidBody.h" = some "URHO3D_PHYSICS" := by
    rw [(guardSymbol?_directories h _).1]
    decide
  obtain ⟨-, -, hbelow⟩ := guardSymbol?_directories h "Urho3D\\Physics/RigidBody.h"
  refine ⟨h, hphysics, (guardSymbol?_directories h _).2.1.2 (by decide), ?_, ?_⟩
  · exact (hbelow "../Network" '/' rfl).1 (by rw [hphysics]; exact Option.some_ne_none _)
  · exact ((hbelow "C:\\Engine" '\\' rfl).2 (by decide)).trans hphysics

end Conventions

end ScriptGlue

import ScriptGlue.Path
import ScriptGlue.Table
import ScriptGlue.Text.Find

namespace ScriptGlue

/-- A file holds a text. One whose bytes are no UTF-8 has no place in a tree. -/
inductive Item where
  | file (text : String)
  | directory
  deriving DecidableEq

inductive FileFault where
  | notFound
  | notADirectory
  | isADirectory
  | alreadyExists
  | nameTooLong
  /-- A path has a null character, which no name can have. -/
  | nullCharacter
  /-- A path that ends in `..` can not be replaced. -/
  | busy
  deriving DecidableEq

/-- The message of a fault; for most of them its wording is left to the system. -/
def FileFault.message : FileFault → String
  | .nullCharacter => "embedded null byte"
  | _ => ""

/-- How many bytes the name of a file may have. -/
def nameLimit : Nat := 255

/-- The text is first written to a file beside, whose name has so many bytes more. -/
def besideLength : Nat := 14

/-- The components of an absolute path that has none which is `..`. -/
abbrev Location := List String

/-- The items of the tree below its root. There are no links, and all items may be read and
written. -/
structure FileTree where
  entries : List (Location × Item) := []

namespace FileTree

def item? (t : FileTree) (l : Location) : Option Item :=
  if l.isEmpty then some .directory else t.entries.lookup l

def isDirectory (t : FileTree) (l : Location) : Bool := t.item? l == some .directory

def text? (t : FileTree) (l : Location) : Option String :=
  match t.item? l with
  | some (.file s) => some s
  | _ => none

def isFile (t : FileTree) (l : Location) : Bool := (t.text? l).isSome

def put (t : FileTree) (l : Location) (i : Item) : FileTree :=
  if t.entries.any (·.1 == l) then
    ⟨t.entries.map fun e => if e.1 == l then (l, i) else e⟩
  else ⟨t.entries ++ [(l, i)]⟩

theorem item?_put (t : FileTree) {l : Location} (h : l ≠ []) (i : Item) (q : Location) :
    (t.put l i).item? q = if q = l then some i else t.item? q := by
  by_cases hq : q = []
  · subst q
    rw [if_neg (Ne.symm h)]
    rfl
  · have he (u : FileTree) : u.item? q = u.entries.lookup q := by
      simp [item?, List.isEmpty_iff, hq]
    rw [he, he]
    unfold put
    split
    · rename_i ha
      obtain ⟨e, he, hl⟩ := List.any_eq_true.1 ha
      have hs : (t.entries.lookup l).isSome :=
        List.lookup_isSome_iff.2 ⟨e, he, by simpa using (beq_iff_eq.1 hl).symm⟩
      obtain ⟨w, hw⟩ := Option.isSome_iff_exists.1 hs
      simp only [beq_iff_eq]
      rw [Table.lookup_replace, hw, Option.map_some]
    · rename_i ha
      have hn : t.entries.lookup l = none := by
        rw [List.lookup_eq_none_iff]
        intro e he
        simpa using fun hl : l = e.1 => ha (List.any_eq_true.2 ⟨e, he, by simp [hl]⟩)
      rw [List.lookup_append, Table.lookup_entry]
      by_cases hl : q = l
      · simp [hl, hn]
      · simp [hl]

def next (l : Location) (part : String) : Location :=
  if part == ".." then l.dropLast else l ++ [part]

def step (t : FileTree) (l : Location) (part : String) : Except FileFault Location :=
  match t.item? l with
  | none => .error .notFound
  | some (.file _) => .error .notADirectory
  | some .directory =>
    if nameLimit < part.utf8ByteSize then .error .nameTooLong else .ok (next l part)

/-- Where an absolute path leads. Nothing need exist at its end, and all before it must. -/
def locate (t : FileTree) (p : Path) : Except FileFault Location :=
  if p.hasNullCharacter then .error .nullCharacter else p.parts.foldlM (t.step · ·) []

def find? (t : FileTree) (p : Path) : Option (Location × Item) :=
  match t.locate p with
  | .ok l => (t.item? l).map (l, ·)
  | .error _ => none

/-- Makes the directories along a path that are not there. Those made before a fault stay. -/
def makeDirectories (t : FileTree) : Location → List String → FileTree × Except FileFault Location
  | l, [] => (t, .ok l)
  | l, part :: parts =>
    if nameLimit < part.utf8ByteSize then (t, .error .nameTooLong)
    else
      match t.item? (next l part) with
      | some .directory => t.makeDirectories (next l part) parts
      | some (.file _) => (t, .error (if parts.isEmpty then .alreadyExists else .notADirectory))
      | none => (t.put (next l part) .directory).makeDirectories (next l part) parts

def read (t : FileTree) (p : Path) : Except FileFault String := do
  match t.item? (← t.locate p) with
  | none => throw .notFound
  | some .directory => throw .isADirectory
  | some (.file s) => return s

def remove (t : FileTree) (l : Location) : FileTree := ⟨t.entries.filter (·.1 != l)⟩

def names (t : FileTree) : List String := t.entries.filterMap (·.1.getLast?)

/-- A name for the file beside. Which one it is does not matter, as long as no item has it: this one
is longer than all names that items have. -/
def besideName (t : FileTree) (name : String) : String :=
  "." ++ name ++ "." ++ String.ofList (t.names.flatMap String.toList) ++ ".tmp"

def beside (t : FileTree) (l : Location) : Location :=
  l.dropLast ++ [t.besideName (l.getLast?.getD "")]

/-- Replaces the file at a location by one with the text, which is written to a file beside first.
That file is gone in the end, also after a fault. -/
def replace (t : FileTree) (l : Location) (text : String) : FileTree × Except FileFault Bool :=
  if nameLimit < (l.getLast?.getD "").utf8ByteSize + besideLength then (t, .error .nameTooLong)
  else
    let b := t.beside l
    let t := t.put b (.file text)
    if t.isDirectory l then (t.remove b, .error .isADirectory)
    else ((t.remove b).put l (.file text), .ok true)

/-- Brings the file at an absolute path to the content, with line feeds only, and tells whether it
was written. With `onlyIfChanged`, a file that holds the same text apart from its line ends is left
as it is. A fault leaves every file as it is. -/
def write (t : FileTree) (p : Path) (content : String) (onlyIfChanged : Bool := true) :
    FileTree × Except FileFault Bool :=
  let text := Text.normalizeNewlines content
  let (t, made) :=
    if p.parent.hasNullCharacter then (t, .error .nullCharacter)
    else t.makeDirectories [] p.parent.parts
  match made.bind fun _ => t.locate p with
  | .error f => (t, .error f)
  | .ok l =>
    if p.name == ".." then (t, .error .busy)
    else if onlyIfChanged && (t.text? l).map Text.normalizeNewlines == some text then (t, .ok false)
    else t.replace l text

def below (t : FileTree) (l : Location) : List Location :=
  (t.entries.map (·.1)).filter fun e => l.isPrefixOf e && l.length < e.length

end FileTree

end ScriptGlue

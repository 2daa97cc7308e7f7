import ScriptGlue.Attribute

namespace ScriptGlue

/-- Declarations from a directory whose code is compiled only where a symbol is defined. -/
structure Guard where
  directory : String
  symbol : String

/-- A directory is met at the head of a path or after a slash. -/
def Guard.covers (g : Guard) (path : String) : Bool :=
  Text.startsWith path g.directory || Text.contains path ("/" ++ g.directory)

structure Conventions where
  /-- The spellings of a list of strings. As a parameter only the first one is accepted. -/
  stringSequences : List String := ["Vector<String>", "StringVector"]
  valueSequence : String := "PODVector"
  handleSequence : String := "Vector"
  singleOwner : String := "SharedPtr"
  /-- The engine context, which no signature can carry. -/
  contextType : String := "Context"
  /-- Classes whose single reference can not be handed over to a script. -/
  ownershipDenylist : List String := ["WorkItem"]
  /-- Aliases that are accepted although other aliases are not. -/
  aliasWhitelist : List String := ["VariantMap"]
  /-- The ending that marks a set of flags. -/
  flagsSuffix : String := "Flags"
  noBindMarker : String := "NO_BIND"
  fakeRefMarker : String := "FAKE_REF"
  /-- What the name of a parameter ends in while it still is a script array. -/
  convertedSuffix : String := "_conv"
  scriptArray : String := "CScriptArray*"
  guards : List Guard := [
    ⟨"Database/", "URHO3D_DATABASE"⟩,
    ⟨"IK/", "URHO3D_IK"⟩,
    ⟨"Navigation/", "URHO3D_NAVIGATION"⟩,
    ⟨"Network/", "URHO3D_NETWORK"⟩,
    ⟨"Physics/", "URHO3D_PHYSICS"⟩,
    ⟨"Urho2D/", "URHO3D_URHO2D"⟩]

namespace Conventions

def standard : Conventions := {}

/-- The symbol that guards the declarations of a header: that of the first entry that covers it.
Backslashes separate directories as slashes do. -/
def guardSymbol? (c : Conventions) (header : String) : Option String :=
  if header.isEmpty then none
  else
    let path := String.ofList (header.toList.map fun c => if c == '\\' then '/' else c)
    (c.guards.find? (·.covers path)).map (·.symbol)

def guardFor? (c : Conventions) (header : Attribute) : Option String :=
  if header.isTruthy then c.guardSymbol? header.shown else none

end Conventions

end ScriptGlue

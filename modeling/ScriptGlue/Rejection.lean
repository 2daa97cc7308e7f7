import ScriptGlue.Attribute
import ScriptGlue.CppType

namespace ScriptGlue

inductive UnbindableReason where
  | unknown
  | internal
  | alias
  | templateResidue
  | scoped
  | voidPointer
  deriving DecidableEq

def UnbindableReason.text : UnbindableReason → String
  | .unknown => "unknown"
  | .internal => "internal"
  | .alias => "alias"
  | .templateResidue => "template residue"
  | .scoped => "scoped"
  | .voidPointer => "void pointer"

inductive Rejection where
  /-- An rvalue reference, a pointer to a pointer or a reference to a pointer. -/
  | qualifierShape (t : CppType)
  | unbindable (reason : UnbindableReason) (t : CppType)
  | markedNoBind (t : CppType)
  | contextResult (t : CppType)
  | contextParameter (t : CppType)
  /-- The single reference to the element can not be handed over. -/
  | ownershipTransfer (t : CppType) (element : String)
  /-- A pointer to a class that is neither counted nor carries the marker. -/
  | pointerOwnership (t : CppType) (marker : String)
  | defaultValue (t : CppType) (value : Attribute)
  deriving BEq

namespace Rejection

def type : Rejection → CppType
  | qualifierShape t | unbindable _ t | markedNoBind t | contextResult t | contextParameter t
  | ownershipTransfer t _ | pointerOwnership t _ | defaultValue t _ => t

def kind : Rejection → String
  | qualifierShape _ => "UnsupportedQualifierShape"
  | unbindable _ _ => "UnbindableType"
  | markedNoBind _ => "MarkedNoBind"
  | contextResult _ | contextParameter _ => "DisallowedContextUsage"
  | ownershipTransfer _ _ => "UnsupportedOwnershipTransfer"
  | pointerOwnership _ _ => "UnsupportedPointerOwnership"
  | defaultValue _ _ => "UnsupportedDefaultValue"

def reason? : Rejection → Option UnbindableReason
  | unbindable r _ => some r
  | _ => none

def ofType (type : String) : String := "Error: type \"" ++ type ++ "\" can not automatically bind"

def message : Rejection → String
  | qualifierShape t => ofType t.spelling
  | unbindable .internal t => ofType t.spelling ++ " because internal"
  | unbindable .alias t => "Using \"" ++ t.name ++ "\" can not automatically bind"
  | unbindable .voidPointer _ => ofType "void*"
  | unbindable _ t => ofType t.spelling
  | markedNoBind t => ofType t.name ++ " because it has the NO_BIND mark"
  | contextResult t => "Error: type \"" ++ t.spelling ++ "\" can not be returned"
  | contextParameter t =>
    t.name ++ " can be used as the first parameter of constructors only"
  | ownershipTransfer t element =>
    ofType t.spelling ++ ": ownership of \"" ++ element ++
      "\" can not be transferred to the script runtime"
  | pointerOwnership t marker =>
    ofType t.spelling ++ ": \"" ++ t.name ++ "\" is neither ref-counted nor marked " ++ marker
  | defaultValue t value =>
    "Error: default value \"" ++ value.shown ++ "\" for \"" ++ t.spelling ++ "\" is not supported"

end Rejection

end ScriptGlue

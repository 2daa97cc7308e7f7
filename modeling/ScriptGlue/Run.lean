import ScriptGlue.FileTree
import ScriptGlue.Json.Decode
import ScriptGlue.Json.Reader
import ScriptGlue.Notice
import ScriptGlue.Pattern.Reader
import ScriptGlue.Registration.Replacement
import ScriptGlue.Template
import ScriptGlue.Wrapper

namespace ScriptGlue

/-- What stops a whole run. A rejection of one declaration never does. -/
inductive Fault where
  | decode (f : DecodeFault)
  | catalogText (f : Json.ReadFault)
  | template (f : TemplateFault)
  | templateNotFound (name : String)
  | replacement (f : ReplacementFault)
  | parameterMismatch (m : ParameterMismatch)
  | file (f : FileFault)
  | parserUnavailable (reason : String)
  | emptyToken
  | pattern (f : Pattern.ReadFault)

/-- The message of a fault; where its wording belongs to another party there is none. -/
def Fault.message : Fault → String
  | .decode f => f.message
  | .catalogText .malformed => "Invalid catalog JSON"
  | .catalogText f => f.message
  | .template f => f.message
  | .templateNotFound name =>
    "Template '" ++ name ++ "' not found in the templates directory or the package templates"
  | .replacement (.unknownGroup name) => "unknown group name " ++ Text.quoted name
  | .replacement .malformed | .replacement .notAText => ""
  | .parameterMismatch m => m.message
  | .file f => f.message
  | .parserUnavailable reason => "libclang shared library could not be loaded: " ++ reason
  | .emptyToken => "string index out of range"
  | .pattern f => f.message

structure ParserCall where
  header : String
  arguments : List String

inductive TraceItem where
  | notice (n : Notice)
  | call (c : ParserCall)

/-- A computation that tells what it does and may stop with a fault. What was told before the fault
is kept. -/
structure Run (α : Type) where
  trace : List TraceItem
  outcome : Except Fault α

namespace Run

variable {α β : Type}

protected def pure (a : α) : Run α := ⟨[], .ok a⟩

protected def bind (r : Run α) (f : α → Run β) : Run β :=
  match r.outcome with
  | .ok a => ⟨r.trace ++ (f a).trace, (f a).outcome⟩
  | .error e => ⟨r.trace, .error e⟩

instance : Monad Run where
  pure := Run.pure
  bind := Run.bind

def tell (n : Notice) : Run Unit := ⟨[.notice n], .ok ()⟩

def tellAll (ns : List Notice) : Run Unit := ⟨ns.map .notice, .ok ()⟩

def record (c : ParserCall) : Run Unit := ⟨[.call c], .ok ()⟩

def stop (f : Fault) : Run α := ⟨[], .error f⟩

def ofExcept {ε : Type} (fault : ε → Fault) : Except ε α → Run α
  | .ok a => ⟨[], .ok a⟩
  | .error e => ⟨[], .error (fault e)⟩

def notices (r : Run α) : List Notice :=
  r.trace.filterMap fun
    | .notice n => some n
    | .call _ => none

def calls (r : Run α) : List ParserCall :=
  r.trace.filterMap fun
    | .call c => some c
    | .notice _ => none

@[simp] theorem outcome_pure (a : α) : (pure a : Run α).outcome = .ok a := rfl

theorem outcome_bind (r : Run α) (f : α → Run β) :
    (r >>= f).outcome = r.outcome.bind fun a => (f a).outcome := by
  show (Run.bind r f).outcome = _
  unfold Run.bind
  split <;> rename_i h <;> simp [h, Except.bind]

instance : LawfulMonad Run := .mk' Run
  (fun r => by
    obtain ⟨trace, outcome⟩ := r
    cases outcome with
    | ok a => exact congrArg (Run.mk · _) (List.append_nil trace)
    | error e => rfl)
  (fun a f => rfl)
  (fun r f g => by
    obtain ⟨trace, outcome⟩ := r
    cases outcome with
    | error e => rfl
    | ok a =>
      show Run.bind (Run.bind ⟨trace, .ok a⟩ f) g =
        Run.bind ⟨trace, .ok a⟩ fun x => Run.bind (f x) g
      simp only [Run.bind]
      cases (f a).outcome with
      | ok b => simp only [List.append_assoc]
      | error e => rfl)

@[simp] theorem outcome_tell (n : Notice) : (tell n).outcome = .ok () := rfl

@[simp] theorem outcome_tellAll (ns : List Notice) : (tellAll ns).outcome = .ok () := rfl

end Run

end ScriptGlue

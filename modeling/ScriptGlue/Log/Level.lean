import ScriptGlue.Binary64
import ScriptGlue.Table
import ScriptGlue.Text.Case

namespace ScriptGlue.Log

abbrev Level := Int

def debug : Level := 10
def info : Level := 20
def warning : Level := 30
def error : Level := 40
def critical : Level := 50

def levels : Table String Level := ⟨[
  ("CRITICAL", critical),
  ("FATAL", critical),
  ("ERROR", error),
  ("WARNING", warning),
  ("WARN", warning),
  ("INFO", info),
  ("DEBUG", debug),
  ("NOTSET", 0)]⟩

def levelName (l : Level) : String :=
  if l == critical then "CRITICAL"
  else if l == error then "ERROR"
  else if l == warning then "WARNING"
  else if l == info then "INFO"
  else if l == debug then "DEBUG"
  else if l == 0 then "NOTSET"
  else "Level " ++ toString l

inductive LevelFault where
  | otherText (text : String)
  | otherValue
  | infinite
  | notANumber

def LevelFault.message : LevelFault → String
  | .otherText text => "Unknown level: '" ++ text ++ "'"
  | .otherValue => ""
  | .infinite => "cannot convert float infinity to integer"
  | .notANumber => "cannot convert float NaN to integer"

/-- The level of a name in letters of either case; a name that means nothing is `info`. -/
def levelOfName (name : String) : Except LevelFault Level :=
  let name := Text.capitalsOf name
  if name == "BASIC_FORMAT" then .error (.otherText "%(levelname)s:%(name)s:%(message)s")
  else if name == "_STYLES" then .error .otherValue
  else .ok ((levels.get? name).getD info)

def levelOfNumber : Binary64 → Except LevelFault Level
  | .finite negative m e => .ok (Binary64.truncated negative m e)
  | .infinite _ => .error .infinite
  | .notANumber => .error .notANumber

structure Record where
  channel : String
  level : Level
  message : String

/-- Records below the threshold are held back, and so is every record without a positive level. -/
def Record.passes (threshold : Level) (r : Record) : Bool := 0 < r.level && threshold ≤ r.level

end ScriptGlue.Log

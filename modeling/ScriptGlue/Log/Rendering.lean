import ScriptGlue.Binary64.Text
import ScriptGlue.Log.Format
import ScriptGlue.Log.Level
import ScriptGlue.Text.Quoting

namespace ScriptGlue.Log

inductive FieldValue where
  | text (s : String)
  | number (n : Int)
  | other (shown : String)

namespace FieldValue

def shown : FieldValue → String
  | text s => s
  | number n => toString n
  | other s => s

end FieldValue

namespace Format

def moduleName (channel : String) : String :=
  String.ofList ((channel.toList.reverse.takeWhile (· != '.')).reverse)

def value? (r : Record) (key : String) : Option FieldValue :=
  if key == "levelname" then some (.text (levelName r.level))
  else if key == "message" || key == "msg" then some (.text r.message)
  else if key == "name" then some (.text (if r.channel.isEmpty then "root" else r.channel))
  else if key == "levelno" then some (.number r.level)
  else if key == "module" then some (.text (moduleName r.channel))
  else if key == "threadName" then some (.text "MainThread")
  else if key == "processName" then some (.text "MainProcess")
  else if key == "exc_info" || key == "exc_text" || key == "stack_info" then some (.other "None")
  else if key == "args" then some (.other "()")
  else none

/-- A text with a sign and a mark of its base before it, filled to the width: with spaces, or with
zeros behind the sign and the mark. -/
def fill (f : FormatField) (zeros : Bool) (sign mark body : List Char) : List Char :=
  let missing := f.width.number - (sign.length + mark.length + body.length)
  if f.flags.contains '-' then sign ++ mark ++ body ++ List.replicate missing ' '
  else if zeros && f.flags.contains '0' then
    sign ++ mark ++ List.replicate missing '0' ++ body
  else List.replicate missing ' ' ++ sign ++ mark ++ body

def cut (f : FormatField) (s : String) : List Char :=
  match f.precision? with
  | some e => s.toList.take e.number
  | none => s.toList

def renderText (f : FormatField) (s : String) : List Char := fill f false [] [] (cut f s)

def signOf (f : FormatField) (negative : Bool) : List Char :=
  if negative then ['-']
  else if f.flags.contains '+' then ['+']
  else if f.flags.contains ' ' then [' ']
  else []

/-- A whole number in a base, with as many digits as the precision asks for. -/
def renderWhole (f : FormatField) (base : Nat) (n : Int) : List Char :=
  let digits := Nat.toDigits base n.natAbs
  let least := (f.precision?.getD .none).number
  let digits := List.replicate (least - digits.length) '0' ++ digits
  let mark := if f.flags.contains '#' && base != 10 then ['0', f.conversion] else []
  let body := if f.conversion == 'X' then digits.map Char.toUpper else digits
  fill f true (signOf f (n < 0)) mark body

def renderBinary? (f : FormatField) (n : Int) : Option (List Char) :=
  match Binary64.ofInt n with
  | .finite negative m e =>
    let precision := match f.precision? with
      | some e => e.number
      | none => 6
    let keepPoint := f.flags.contains '#'
    let body :=
      if f.conversion.toLower == 'e' then Binary64.exponentText m e precision keepPoint
      else if f.conversion.toLower == 'f' then Binary64.fixedText m e precision keepPoint
      else Binary64.generalText m e precision keepPoint
    let body := if f.conversion.isUpper then body.map Char.toUpper else body
    some (fill f true (signOf f negative) [] body)
  | _ => none

def renderCharacter? (f : FormatField) : FieldValue → Option (List Char)
  | .text s => if s.length == 1 then some (fill f false [] [] s.toList) else none
  | .number n =>
    if 0 ≤ n && n.toNat.isValidChar then some (fill f false [] [] [Char.ofNat n.toNat]) else none
  | .other _ => none

def renderNumber? (f : FormatField) : FieldValue → Option (List Char)
  | .number n =>
    match f.conversion with
    | 'd' | 'i' | 'u' => some (renderWhole f 10 n)
    | 'x' | 'X' => some (renderWhole f 16 n)
    | 'o' => some (renderWhole f 8 n)
    | 'e' | 'E' | 'f' | 'F' | 'g' | 'G' => renderBinary? f n
    | _ => none
  | _ => none

def renderField? (r : Record) (f : FormatField) : Option (List Char) := do
  let value ← value? r f.key
  if !f.width.isUsable || !(f.precision?.getD .none).isUsable then none
  else
    match f.conversion, value with
    | 's', v => some (renderText f v.shown)
    | 'r', .text s => some (renderText f (Text.quoted s))
    | 'a', .text s => some (renderText f (Text.quotedASCII s))
    | 'r', v | 'a', v => some (renderText f v.shown)
    | 'c', v => renderCharacter? f v
    | _, v => renderNumber? f v

def renderPiece? (r : Record) : FormatPiece → Option (List Char)
  | .literal c => some [c]
  | .field f => renderField? r f

def line? (format : String) (r : Record) : Option String := do
  let pieces ← piecesFrom? 0 format.toList
  let parts ← pieces.mapM (renderPiece? r)
  return String.ofList parts.flatten

end Format

/-- What becomes of the records that pass the threshold: a line, unless the format can not show it.
An empty format stands for the standard one. -/
def lines (threshold : Level) (format : String) (records : List Record) : List (Option String) :=
  (records.filter (·.passes threshold)).map
    (Format.line? (if format.isEmpty then Format.standard else format))

def render (threshold : Level) (format : String) (records : List Record) : String :=
  String.join ((lines threshold format records).filterMap fun l => l.map (· ++ "\n"))

/-- What is written to the terminal, where the first record that can not be shown ends the lines
with a complaint. -/
def renderStrictly (threshold : Level) (format : String) (records : List Record) : String :=
  let ls := lines threshold format records
  let shown := (ls.takeWhile (·.isSome)).filterMap id
  String.join (shown.map (· ++ "\n")) ++
    if ls.all (·.isSome) then "" else "--- Logging error ---\n"

end ScriptGlue.Log

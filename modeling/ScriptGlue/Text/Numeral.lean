import ScriptGlue.Text.Category
import ScriptGlue.Text.Word

namespace ScriptGlue.Text

def digitValue? (base : Nat) (c : Char) : Option Nat :=
  let value? :=
    if c.isDigit then some (c.toNat - '0'.toNat)
    else if 'a' ≤ c && c ≤ 'f' then some (c.toNat - 'a'.toNat + 10)
    else if 'A' ≤ c && c ≤ 'F' then some (c.toNat - 'A'.toNat + 10)
    else none
  value?.filter (· < base)

def isDigitOf (base : Nat) (c : Char) : Bool := (digitValue? base c).isSome

/-- The number that a numeral writes, if all its characters are digits of the base. -/
def numeral? (base : Nat) (ds : List Char) : Option Nat :=
  ds.foldlM (fun n d => (digitValue? base d).map (base * n + ·)) 0

def numeral (base : Nat) (ds : List Char) : Nat := (numeral? base ds).getD 0

/-- The last `count` digits of a number, with leading zeros where it has fewer. -/
def lastDigits (base : Nat) : Nat → Nat → List Char
  | 0, _ => []
  | count + 1, n => lastDigits base count (n / base) ++ [Nat.digitChar (n % base)]

/-- Where a digit of a script other than the Latin one begins; the other nine follow it. -/
def digitZeros : List Nat := [
  0x660, 0x6f0, 0x7c0, 0x966, 0x9e6, 0xa66, 0xae6, 0xb66, 0xbe6, 0xc66, 0xce6, 0xd66, 0xde6, 0xe50,
  0xed0, 0xf20, 0x1040, 0x1090, 0x17e0, 0x1810, 0x1946, 0x19d0, 0x1a80, 0x1a90, 0x1b50, 0x1bb0,
  0x1c40, 0x1c50, 0xa620, 0xa8d0, 0xa900, 0xa9d0, 0xa9f0, 0xaa50, 0xabf0, 0xff10, 0x104a0, 0x10d30,
  0x11066, 0x110f0, 0x11136, 0x111d0, 0x112f0, 0x11450, 0x114d0, 0x11650, 0x116c0, 0x11730, 0x118e0,
  0x11950, 0x11c50, 0x11d50, 0x11da0, 0x16a60, 0x16ac0, 0x16b50, 0x1d7ce, 0x1d7d8, 0x1d7e2, 0x1d7ec,
  0x1d7f6, 0x1e140, 0x1e2f0, 0x1e950, 0x1fbf0]

def decimalValue? (c : Char) : Option Nat :=
  if c.isDigit then some (c.toNat - '0'.toNat)
  else (digitZeros.find? fun z => z ≤ c.toNat && c.toNat < z + 10).map (c.toNat - ·)

def isDecimal (c : Char) : Bool := (decimalValue? c).isSome

/-- The whole number that a text writes, in digits of any script. There may be white space around
it, a sign before it, and single underscores between its digits. -/
def wholeNumber? (s : List Char) : Option Int := do
  let (negative, body) := match trim s with
    | '-' :: ds => (true, ds)
    | '+' :: ds => (false, ds)
    | ds => (false, ds)
  let groups := body.splitOn '_'
  if groups.any (·.isEmpty) then none
  else do
    let values ← groups.flatten.mapM decimalValue?
    let n : Nat := values.foldl (fun n v => 10 * n + v) 0
    return if negative then -(n : Int) else (n : Int)

end ScriptGlue.Text

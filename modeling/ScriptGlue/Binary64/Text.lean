import ScriptGlue.Binary64.Decimal
import ScriptGlue.Text.Numeral

namespace ScriptGlue.Binary64

def zeros (count : Nat) : List Char := List.replicate count '0'

/-- Digits with a point before the last `places` of them, and at least one digit before the
point. -/
def pointed (digits : List Char) (places : Nat) : List Char :=
  let digits := zeros (places + 1 - digits.length) ++ digits
  let whole := digits.length - places
  if places == 0 then digits else digits.take whole ++ '.' :: digits.drop whole

def powerText (mark : Char) (power : Int) : List Char :=
  let digits := Nat.toDigits 10 power.natAbs
  mark :: (if power < 0 then '-' else '+') :: zeros (2 - digits.length) ++ digits

/-- The digits of a decimal without the zeros at its end, and the power of ten at its first
digit. -/
def leadingDigits (d : Decimal) : List Char × Int :=
  let digits := Nat.toDigits 10 d.digits
  let kept := (digits.reverse.dropWhile (· == '0')).reverse
  (if kept.isEmpty then ['0'] else kept, d.power + (digits.length - 1 : Nat))

/-- A positive decimal, with a point. The first digit is that of the given power of ten. -/
def positional (digits : List Char) (power : Int) : List Char :=
  if power < 0 then '0' :: '.' :: zeros ((-power).toNat - 1) ++ digits
  else
    let digits := digits ++ zeros (power.toNat + 2 - digits.length)
    digits.take (power.toNat + 1) ++ '.' :: digits.drop (power.toNat + 1)

def exponential (digits : List Char) (power : Int) : List Char :=
  (match digits with
    | d :: e :: more => d :: '.' :: e :: more
    | _ => digits) ++ powerText 'e' power

def signText (negative : Bool) : List Char := if negative then ['-'] else []

/-- The names of the numbers that are not finite can be chosen, since formats differ in them. -/
def textWith (infinity notANumber : String) : Binary64 → String
  | .finite negative m e =>
    let body :=
      if m == 0 then "0.0".toList
      else
        let (digits, power) := leadingDigits (shortest m e)
        if -4 ≤ power && power < 16 then positional digits power else exponential digits power
    String.ofList (signText negative ++ body)
  | .infinite negative => String.ofList (signText negative) ++ infinity
  | .notANumber => notANumber

def text (x : Binary64) : String := x.textWith "inf" "nan"

def closingPoint (keepPoint : Bool) (places : Nat) : List Char :=
  if keepPoint && places == 0 then ['.'] else []

def fixedText (m : Nat) (e : Int) (places : Nat) (keepPoint : Bool) : List Char :=
  pointed (Nat.toDigits 10 (toPlaces m e places)) places ++ closingPoint keepPoint places

/-- The size of a number with one digit before the point and so many places behind it. -/
def exponentText (m : Nat) (e : Int) (places : Nat) (keepPoint : Bool) : List Char :=
  let d := toDigits m e (places + 1)
  pointed (Text.lastDigits 10 (places + 1) d.digits) places ++ closingPoint keepPoint places ++
    powerText 'e' (d.power + places)

/-- Takes the zeros at the end of a text with a point, and a point that is left at its end. -/
def trimZeros (s : List Char) : List Char :=
  if s.contains '.' then
    let kept := s.reverse.dropWhile (· == '0')
    (if kept.head? == some '.' then kept.tail else kept).reverse
  else s

/-- The size of a number with so many digits in all, with a power of ten where it is very small or
has more digits. Zeros at the end are left out unless the point is kept. -/
def generalText (m : Nat) (e : Int) (count : Nat) (keepPoint : Bool) : List Char :=
  let count := max count 1
  let d := toDigits m e count
  let digits := Text.lastDigits 10 count d.digits
  let power := d.power + (count - 1 : Nat)
  let trim (s : List Char) : List Char := if keepPoint then s else trimZeros s
  if -4 ≤ power && power < count then
    let places := (-d.power).toNat
    trim (pointed digits places ++ closingPoint keepPoint places)
  else
    trim (pointed digits (count - 1) ++ closingPoint keepPoint (count - 1)) ++ powerText 'e' power

end ScriptGlue.Binary64

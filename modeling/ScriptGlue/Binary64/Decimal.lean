import ScriptGlue.Binary64

namespace ScriptGlue.Binary64

def leadingPower (n d : Nat) : Int :=
  if d ≤ n then ((Nat.toDigits 10 (n / d)).length : Int) - 1
  else
    let k := (Nat.toDigits 10 (d / n)).length
    if d == n * Nat.pow 10 (k - 1) then 1 - (k : Int) else -(k : Int)

def inUnits (n d : Nat) (power : Int) : Nat × Nat :=
  let (p, q) := scaledFraction 10 1 power
  (n * q, d * p)

structure Decimal where
  digits : Nat
  power : Int

/-- The decimal with so many digits that is read as the number, and the nearer one of two. -/
def decimalOfLength? (m : Nat) (e : Int) (count : Nat) : Option Decimal :=
  let (n, d) := fraction m e
  let power := leadingPower n d - (count - 1 : Nat)
  let (n, d) := inUnits n d power
  let isRead (c : Nat) : Bool := ofDecimal false c power == .finite false m e
  let low := n / d
  let nearest := roundedQuotient n d
  let farther := if nearest == low then low + 1 else low
  if isRead nearest then some ⟨nearest, power⟩
  else if isRead farther then some ⟨farther, power⟩
  else none

/-- The shortest decimal that is read as the number. Seventeen digits are always enough. -/
def shortest (m : Nat) (e : Int) : Decimal :=
  ((List.range 17).findSome? fun k => decimalOfLength? m e (k + 1)).getD ⟨0, 0⟩

/-- The size of a number in units of the last of so many places behind the point. -/
def toPlaces (m : Nat) (e : Int) (places : Nat) : Nat :=
  let (n, d) := fraction m e
  roundedQuotient (n * Nat.pow 10 places) d

/-- The size of a number with so many digits, of which there is at least one. -/
def toDigits (m : Nat) (e : Int) (count : Nat) : Decimal :=
  if m == 0 then ⟨0, 1 - (count : Int)⟩
  else
    let (n, d) := fraction m e
    let power := leadingPower n d - (count - 1 : Nat)
    let (n, d) := inUnits n d power
    let digits := roundedQuotient n d
    if digits == Nat.pow 10 count then ⟨Nat.pow 10 (count - 1), power + 1⟩ else ⟨digits, power⟩

end ScriptGlue.Binary64

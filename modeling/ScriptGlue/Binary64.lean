namespace ScriptGlue

/-- The quotient of two whole numbers, rounded to the nearest one, and to the even one of two that
are equally near. -/
def roundedQuotient (n d : Nat) : Nat :=
  let q := n / d
  let r := n % d
  if d < 2 * r || (2 * r == d && q % 2 == 1) then q + 1 else q

/-- A whole number times a power of a base, as a numerator and a denominator. -/
def scaledFraction (base n : Nat) (power : Int) : Nat × Nat :=
  if 0 ≤ power then (n * base.pow power.toNat, 1) else (n, base.pow (-power).toNat)

/-- The binary format with 64 bits, as exact whole multiples of powers of two. -/
inductive Binary64 where
  | finite (negative : Bool) (mantissa : Nat) (exponent : Int)
  | infinite (negative : Bool)
  | notANumber
  deriving DecidableEq, Inhabited

namespace Binary64

def precision : Nat := 53

def leastExponent : Int := -1074

def greatestExponent : Int := 971

def zero (negative : Bool) : Binary64 := .finite negative 0 leastExponent

def isZero : Binary64 → Bool
  | .finite _ m _ => m == 0
  | _ => false

/-- The greatest exponent with which the mantissa of a positive fraction has all its binary digits,
unless that is below the least exponent. -/
def exponentOf (n d : Nat) : Int :=
  let guess : Int := (Nat.log2 n : Int) - Nat.log2 d - (precision - 1)
  let (p, q) := scaledFraction 2 1 (guess + (precision - 1))
  max leastExponent (if n * q < p * d then guess - 1 else guess)

/-- The number nearest to a fraction, which is infinite where the fraction is too great. -/
def ofFraction (negative : Bool) (n d : Nat) : Binary64 :=
  if n == 0 then zero negative
  else
    let e := exponentOf n d
    let (p, q) := scaledFraction 2 1 e
    let m := roundedQuotient (n * q) (d * p)
    let (m, e) := if m == Nat.pow 2 precision then (Nat.pow 2 (precision - 1), e + 1) else (m, e)
    if greatestExponent < e then .infinite negative else .finite negative m e

/-- The number nearest to a decimal. Powers of ten far outside of the range are not computed. -/
def ofDecimal (negative : Bool) (mantissa : Nat) (power : Int) : Binary64 :=
  let size := (Nat.toDigits 10 mantissa).length
  if mantissa == 0 || power + size < -400 then zero negative
  else if 400 < power + size then .infinite negative
  else
    let (n, d) := scaledFraction 10 mantissa power
    ofFraction negative n d

def ofInt (i : Int) : Binary64 := ofFraction (i < 0) i.natAbs 1

def fraction (mantissa : Nat) (exponent : Int) : Nat × Nat := scaledFraction 2 mantissa exponent

/-- The whole number that is left when what stands behind the point is dropped. -/
def truncated (negative : Bool) (mantissa : Nat) (exponent : Int) : Int :=
  let (n, d) := fraction mantissa exponent
  if negative then -(n / d : Nat) else (n / d : Nat)

end Binary64

end ScriptGlue

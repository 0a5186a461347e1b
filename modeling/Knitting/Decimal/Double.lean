import Knitting.Decimal.Basic

/-! # Binary numbers of double precision

A finite number is a mantissa of at most 53 bits times a power of two. Decimal numbers are
rounded to the nearest of them, and to the one with an even mantissa if two are as near.
-/
namespace Knitting

inductive Double where
  | finite (negative : Bool) (mantissa : Nat) (exponent : Int)
  | infinite (negative : Bool)
  | nan
  deriving DecidableEq, Repr

namespace Double

def powerOfTwo (n : Nat) : Nat := Nat.pow 2 n

def mantissaBits : Nat := 53

def minExponent : Int := -1074

def maxExponent : Int := 971

def isZero : Double → Bool
  | .finite _ m _ => m == 0
  | _ => false

/-- A quotient rounded to the nearest natural number, a half to the even one. -/
def roundHalfEven (n d : Nat) : Nat :=
  if 2 * (n % d) < d ∨ (2 * (n % d) = d ∧ n / d % 2 = 0) then n / d else n / d + 1

/-- `n / d` over `2 ^ e`, as numerator and denominator. -/
def scaled (n d : Nat) (e : Int) : Nat × Nat := (n * powerOfTwo (-e).toNat, d * powerOfTwo e.toNat)

/-- The exponent with which the mantissa of `n / d` has all its bits, as far as there is one. -/
def exponentOf (n d : Nat) : Int :=
  let least : Int := n.log2 - d.log2 - mantissaBits
  let (a, b) := scaled n d least
  max (if a / b < powerOfTwo mantissaBits then least else least + 1) minExponent

/-- The nearest number to `n / d`, neither of which is zero. -/
def ofRatio (negative : Bool) (n d : Nat) : Double :=
  let e := exponentOf n d
  let (a, b) := scaled n d e
  let m := roundHalfEven a b
  let (m, e) :=
    if m = powerOfTwo mantissaBits then (powerOfTwo (mantissaBits - 1), e + 1) else (m, e)
  if maxExponent < e then .infinite negative else .finite negative m e

/-- The nearest number to a decimal one. What is far out of range is not computed exactly. -/
def ofDecimal (d : Decimal) : Double :=
  if d.digits = 0 ∨ d.size < -330 then .finite d.negative 0 minExponent
  else if 310 < d.size then .infinite d.negative
  else ofRatio d.negative (d.digits * Decimal.powerOfTen d.power.toNat)
      (Decimal.powerOfTen (-d.power).toNat)

end Double

end Knitting

import Knitting.Text.Count

/-! Decimal numbers as they are written. -/
namespace Knitting

/-- The number `digits * 10 ^ power`, or its negative. -/
structure Decimal where
  negative : Bool
  digits : Nat
  power : Int
  deriving DecidableEq, Repr

namespace Decimal

def powerOfTen (n : Nat) : Nat := Nat.pow 10 n

/-- The number with these digits before and behind the point, times a power of ten. -/
def ofParts (negative : Bool) (whole fraction : List Char) (power : Int) : Decimal :=
  ⟨negative, Text.decimalValue (whole ++ fraction), power - fraction.length⟩

def digitCount (n : Nat) : Nat := (Nat.toDigits 10 n).length

/-- How many digits stand before the point; fewer than none if zeros follow it. -/
def size (d : Decimal) : Int := digitCount d.digits + d.power

end Decimal

end Knitting

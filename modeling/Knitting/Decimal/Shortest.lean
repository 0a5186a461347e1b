import Knitting.Decimal.Double

/-! # The shortest decimal of a binary number

Among the decimals that are rounded to a given number, those with the fewest digits are sought,
and of these the nearest is taken.
-/
namespace Knitting.Double
open Decimal (digitCount powerOfTen)

/-- The decimals that are rounded to `mantissa * 2 ^ exponent`, in quarters of the last bit. Below
a power of two the next number is half as far as above it. -/
structure Catchment where
  middle : Nat
  low : Nat
  high : Nat
  closed : Bool

def catchment (m : Nat) (e : Int) : Catchment :=
  let below := if m = powerOfTwo (mantissaBits - 1) ∧ minExponent < e then 1 else 2
  ⟨4 * m, 4 * m - below, 4 * m + 2, m % 2 == 0⟩

/-- Whether `a / b` quarters are caught. -/
def Catchment.holds (c : Catchment) (a b : Nat) : Bool :=
  (c.low * b < a && a < c.high * b) || (c.closed && (a == c.low * b || a == c.high * b))

/-- The place of the first digit: the number is below `10 ^ place` and not below a tenth of that.
No number is below the 400th place behind the point. -/
def place (m : Nat) (e : Int) : Int :=
  let (a, b) := scaled m 1 (-e)
  digitCount (a * powerOfTen 400 / b) - 400

/-- Of two neighbours on a grid, the one that is caught, or the nearer one. -/
def nearer (c : Catchment) (n a b : Nat) : Option Nat :=
  let below := c.holds (n * a) b
  let above := c.holds ((n + 1) * a) b
  let toBelow := c.middle * b - n * a
  let toAbove := (n + 1) * a - c.middle * b
  if below ∧ above then
    if toBelow < toAbove ∨ (toBelow = toAbove ∧ n % 2 = 0) then some n else some (n + 1)
  else if below then some n
  else if above then some (n + 1)
  else none

/-- The decimal with `count` digits that is rounded to `m * 2 ^ e`. -/
def withDigits? (m : Nat) (e : Int) (count : Nat) : Option (Nat × Int) :=
  let power := place m e - count
  let a := powerOfTen power.toNat * powerOfTwo (2 - e).toNat
  let b := powerOfTwo (e - 2).toNat * powerOfTen (-power).toNat
  let c := catchment m e
  (nearer c (c.middle * b / a) a b).map fun n => (n, power)

/-- Digits and power of ten of the shortest decimal; seventeen digits are always enough. -/
def shortest (m : Nat) (e : Int) : Nat × Int :=
  if m = 0 then (0, 0)
  else ((List.range' 1 17).findSome? (withDigits? m e)).getD (0, 0)

/-- `digits * 10 ^ power` without a power of ten, and without zeros at the end of its fraction. -/
def positional (digits : Nat) (power : Int) : String :=
  let all := (toString digits).toList
  let kept := if digits = 0 then all else (all.reverse.dropWhile (· = '0')).reverse
  let point : Int := all.length + power
  if kept.length ≤ point then
    String.ofList (kept ++ List.replicate (point - kept.length).toNat '0')
  else if point ≤ 0 then
    String.ofList ('0' :: '.' :: (List.replicate (-point).toNat '0' ++ kept))
  else String.ofList (kept.take point.toNat ++ '.' :: kept.drop point.toNat)

def sign (negative : Bool) : String := if negative then "-" else ""

/-- The shortest text that reads back as the number, never with a power of ten. -/
def text : Double → String
  | .finite negative m e => sign negative ++ positional (shortest m e).1 (shortest m e).2
  | .infinite negative => sign negative ++ "inf"
  | .nan => "NaN"

end Knitting.Double

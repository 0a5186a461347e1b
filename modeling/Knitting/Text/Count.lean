/-! Counts written in decimal. -/
namespace Knitting.Text

/-- The value of decimal digits, the most significant first. -/
def decimalValue (ds : List Char) : Nat := ds.foldl (fun n d => 10 * n + (d.toNat - 48)) 0

/-- A count is a nonempty run of ASCII digits whose value fits into 32 bits. -/
def readCount (ds : List Char) : Option UInt32 :=
  if ds ≠ [] ∧ ds.all Char.isDigit ∧ decimalValue ds < UInt32.size then
    some (UInt32.ofNat (decimalValue ds))
  else none

end Knitting.Text

import Knitting.Stitch

/-! Worked rows: single stitches, all groups and repeats written out. -/
namespace Knitting

structure StitchRow where
  number : UInt32
  stitches : List Stitch
  deriving DecidableEq, Repr

namespace StitchRow

def weight (r : StitchRow) : Nat := (r.stitches.map Stitch.weight).foldr (· + ·) 0

def advance (r : StitchRow) : Nat := (r.stitches.map Stitch.advance).foldr (· + ·) 0

def text (r : StitchRow) : String :=
  s!"Row {r.number.toNat}: [" ++ ", ".intercalate (r.stitches.map Stitch.text) ++ "]"

end StitchRow

end Knitting

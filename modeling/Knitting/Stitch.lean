/-! # Stitches

Every stitch has a weight, the stitches it leaves on the needle for the next row, and an
advance, the stitches of the previous row that it works. Counts are 32-bit words; weights and
advances are unbounded, so that no sum of them can wrap.
-/
namespace Knitting

/-- The way in which the two strands of a cable cross. -/
inductive Crossing where
  | knitForward
  | knitBackward
  | purlForward
  | purlBackward
  deriving DecidableEq, Repr

inductive Stitch where
  | knit
  | purl
  | slipSlipKnit
  | yarnOver
  | knitTogether (count : UInt32)
  | purlTogether (count : UInt32)
  | castOn (count : UInt32)
  | bindOff (count : UInt32)
  | cable (crossing : Crossing) (front back : UInt32)
  deriving DecidableEq, Repr

namespace Stitch

/-- Stitches left on the needle. -/
def weight : Stitch → Nat
  | .knit | .purl | .slipSlipKnit | .yarnOver => 1
  | .knitTogether _ | .purlTogether _ => 1
  | .castOn n => n.toNat
  | .bindOff _ => 0
  | .cable _ front back => front.toNat + back.toNat

/-- Stitches of the previous row that are worked. -/
def advance : Stitch → Nat
  | .knit | .purl => 1
  | .slipSlipKnit => 2
  | .yarnOver | .castOn _ => 0
  | .knitTogether n | .purlTogether n | .bindOff n => n.toNat
  | .cable _ front back => front.toNat + back.toNat

theorem weight_lt (s : Stitch) : s.weight < 2 * UInt32.size := by
  cases s with
  | castOn n => exact Nat.lt_trans n.toNat_lt (by decide)
  | cable _ front back =>
    have := front.toNat_lt
    have := back.toNat_lt
    simp only [weight, UInt32.size]
    omega
  | _ => simp [weight, UInt32.size]

theorem advance_lt (s : Stitch) : s.advance < 2 * UInt32.size := by
  cases s with
  | knitTogether n | purlTogether n | bindOff n => exact Nat.lt_trans n.toNat_lt (by decide)
  | cable _ front back =>
    have := front.toNat_lt
    have := back.toNat_lt
    simp only [advance, UInt32.size]
    omega
  | _ => simp [advance, UInt32.size]

end Stitch

/-- The letter before the counts of a cable: the strand behind is knitted or purled. -/
def Crossing.ground : Crossing → String
  | .knitForward | .knitBackward => "C"
  | .purlForward | .purlBackward => "P"

/-- The letter after the counts of a cable. -/
def Crossing.direction : Crossing → String
  | .knitForward | .purlForward => "F"
  | .knitBackward | .purlBackward => "B"

def Stitch.text : Stitch → String
  | .knit => "Knit"
  | .purl => "Purl"
  | .slipSlipKnit => "Slip slip knit"
  | .yarnOver => "Yarn over"
  | .knitTogether n => s!"K{n.toNat}tog"
  | .purlTogether n => s!"P{n.toNat}tog"
  | .castOn n => s!"Cast on {n.toNat}"
  | .bindOff n => s!"Bind off {n.toNat}"
  | .cable c front back => s!"{c.ground}{front.toNat}/{back.toNat}{c.direction}"

end Knitting

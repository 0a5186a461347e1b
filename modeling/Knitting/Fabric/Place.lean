/-! Places in worked rows. -/
namespace Knitting

/-- A row by its number, and the stitch of the row before it that comes next. Row numbers are
32-bit words and count on from zero after the last of them. -/
structure Place where
  row : UInt32
  column : Nat
  deriving DecidableEq, Repr

def Place.text (p : Place) : String := s!"row {p.row.toNat}, st {p.column}"

end Knitting

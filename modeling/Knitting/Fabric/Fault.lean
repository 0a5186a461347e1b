import Knitting.Fabric.Place
import Knitting.Text.Quoted

/-! Why a row cannot be worked, each fault with the place at which working it stopped. -/
namespace Knitting

/-- The most stitches that one row may hold. -/
def rowLimit : Nat := 100000

inductive Fault where
  | budgetExceeded (place : Place) (available required : Nat)
  | countMismatch (place : Place) (expected received : Nat)
  | rowTooLong (place : Place)
  | zeroAdvanceRepeat (place : Place)
  | noPreviousRow (place : Place)
  | markerNotFound (place : Place) (name : Char)
  deriving DecidableEq, Repr

namespace Fault

def place : Fault → Place
  | .budgetExceeded p _ _ | .countMismatch p _ _ | .rowTooLong p => p
  | .zeroAdvanceRepeat p | .noPreviousRow p | .markerNotFound p _ => p

def message : Fault → String
  | .budgetExceeded p available required =>
    s!"exceeded number of sts at {p.text} (available {available}, required {required})"
  | .countMismatch p expected received =>
    s!"unmatched number of stitches in row {p.row.toNat}: " ++
      s!"expected {expected}, received {received}"
  | .rowTooLong p => s!"row {p.row.toNat} is longer than {rowLimit} stitches"
  | .zeroAdvanceRepeat p =>
    s!"repeat content has zero advance at {p.text}, cannot calculate repetitions"
  | .noPreviousRow p => s!"cannot infer repeat count at {p.text}: no previous row"
  | .markerNotFound p name => s!"marker {Text.quoteChar name} not found at {p.text}"

end Fault

end Knitting

import Knitting.Fabric.StitchRow

/-! # Charts

A chart draws one line for each row, the last row on top. Rows are worked alternately from
either side, so with `alternateRows` every other drawn row is reversed, beginning with the first.
A row without anything to draw has no line and no part in the alternation.
-/
namespace Knitting

structure ChartOptions where
  alternateRows : Bool := true
  rowNumbers : Bool := false
  deriving DecidableEq, Repr

namespace Stitch

/-- The characters a stitch is drawn with; a cable has one for each stitch it crosses. Stitches
cast on or bound off are not drawn. -/
def symbol? : Stitch → Option (List Char)
  | .knit => some ['|']
  | .purl => some ['-']
  | .slipSlipKnit => some ['\\']
  | .knitTogether _ => some ['/']
  | .purlTogether _ => some ['⁄']
  | .yarnOver => some ['o']
  | .cable .knitForward front back => some (List.replicate (front.toNat + back.toNat) '>')
  | .cable .knitBackward front back => some (List.replicate (front.toNat + back.toNat) '<')
  | .cable .purlForward front back => some (List.replicate (front.toNat + back.toNat) '\x7d')
  | .cable .purlBackward front back => some (List.replicate (front.toNat + back.toNat) '\x7b')
  | .castOn _ | .bindOff _ => none

/-- The image a stitch is drawn with. The counts of a cable stand side by side in its name. -/
def image? : Stitch → Option String
  | .knit => some "rec/k.jpg"
  | .purl => some "rec/p.jpg"
  | .slipSlipKnit => some "rec/ssk.jpg"
  | .knitTogether _ => some "rec/k2tog.jpg"
  | .purlTogether _ => some "rec/p2tog.jpg"
  | .yarnOver => some "rec/yo.jpg"
  | .cable .knitForward front back => some s!"rec/{front.toNat}{back.toNat}rc.jpg"
  | .cable .knitBackward front back => some s!"rec/{front.toNat}{back.toNat}lc.jpg"
  | .cable .purlForward front back => some s!"rec/{front.toNat}{back.toNat}rpc.jpg"
  | .cable .purlBackward front back => some s!"rec/{front.toNat}{back.toNat}lpc.jpg"
  | .castOn _ | .bindOff _ => none

end Stitch

namespace Chart

def cells (r : StitchRow) : List (List Char) := r.stitches.filterMap Stitch.symbol?

/-- A row number, three characters wide at least, and a blank. -/
def numberTag (n : UInt32) : String :=
  let digits := toString n.toNat
  String.ofList (List.replicate (3 - digits.length) ' ') ++ digits ++ " "

def line (options : ChartOptions) (reversed : Bool) (r : StitchRow) : String :=
  let drawn := if options.alternateRows && reversed then (cells r).reverse else cells r
  let symbols := String.ofList drawn.flatten
  if options.rowNumbers then numberTag r.number ++ symbols else symbols

/-- The lines from the first row on; `reversed` tells whether the next drawn row is reversed. -/
def lines (options : ChartOptions) (reversed : Bool) : List StitchRow → List String
  | [] => []
  | r :: rs =>
    if (cells r).isEmpty then lines options reversed rs
    else line options reversed r :: lines options (!reversed) rs

/-- The whole chart. A line feed ends it unless there is nothing before it. -/
def render (options : ChartOptions) (rows : List StitchRow) : String :=
  let drawn := "\n".intercalate (lines options true rows).reverse
  if drawn.isEmpty then drawn else drawn ++ "\n"

end Chart

end Knitting

import Knitting.Fabric.Basic
import Knitting.Format.Document

/-! Lexemes, patterns and compilations as documents. -/
namespace Knitting

def Position.document (p : Position) : Document :=
  .record [("line", .number p.line), ("column", .number p.column)]

def Lexeme.document (l : Lexeme) : Document :=
  .record [("position", l.position.document), ("token", .choice l.token.label),
    ("literal", .text l.literal)]

def Crossing.label : Crossing → String
  | .knitForward => "CableForward"
  | .knitBackward => "CableBackward"
  | .purlForward => "PurlCableForward"
  | .purlBackward => "PurlCableBackward"

def Stitch.document : Stitch → Document
  | .knit => .choice "Knit"
  | .purl => .choice "Purl"
  | .slipSlipKnit => .choice "SlipSlipKnit"
  | .yarnOver => .choice "YarnOver"
  | .knitTogether n => .holding "KnitTogether" (.number n.toNat)
  | .purlTogether n => .holding "PurlTogether" (.number n.toNat)
  | .castOn n => .holding "CastOn" (.number n.toNat)
  | .bindOff n => .holding "BindOff" (.number n.toNat)
  | .cable c front back =>
    .holding c.label (.record [("front", .number front.toNat), ("back", .number back.toNat)])

def MarkerAction.document : MarkerAction → Document
  | .place name => .holding "Place" (.letter name)
  | .remove name => .holding "Remove" (.letter name)

namespace Expr

mutual

def document : Expr → Document
  | .stitch s => .holding "Stitch" s.document
  | .group es => .holding "Group" (.record [("content", .list (documents es))])
  | .times e n => .holding "Repeat" (.holding "Exact"
      (.record [("content", e.document), ("count", .number n.toNat)]))
  | .leaving e n => .holding "Repeat" (.holding "Neg"
      (.record [("content", e.document), ("count", .number n.toNat)]))
  | .marker a => .holding "Marker" a.document

def documents : List Expr → List Document
  | [] => []
  | e :: es => e.document :: documents es

end

end Expr

def Row.document (r : Row) : Document :=
  .record [("content", .list (Expr.documents r.content)), ("position", r.position.document)]

def Item.document : Item → Document
  | .row r => .holding "Row" r.document
  | .block b => .holding "RepeatBlock"
      (.record [("rows", .list (b.rows.map Row.document)), ("count", .number b.count.toNat)])

def Section.document (s : Section) : Document :=
  .record [("name", .text s.name), ("content", .list (s.content.map Item.document))]

def Place.document (p : Place) : Document :=
  .record [("row", .number p.row.toNat), ("column", .number p.column)]

def MarkerTable.document (t : MarkerTable) : Document :=
  .record [("markers", .table (t.entries.map fun (name, place) => (name, place.document)))]

def StitchRow.document (r : StitchRow) : Document :=
  .record [("number", .number r.number.toNat), ("stitches", .list (r.stitches.map Stitch.document))]

def Fault.document : Fault → Document
  | .budgetExceeded p available required => .holding "StitchBudgetExceeded" (.record
      [("at", p.document), ("available", .number available), ("required", .number required)])
  | .countMismatch p expected received => .holding "StitchCountMismatch" (.record
      [("at", p.document), ("expected", .number expected), ("received", .number received)])
  | .rowTooLong p =>
    .holding "RowTooLong" (.record [("at", p.document), ("limit", .number rowLimit)])
  | .zeroAdvanceRepeat p => .holding "ZeroAdvanceRepeat" (.record [("at", p.document)])
  | .noPreviousRow p => .holding "NoPreviousRow" (.record [("at", p.document)])
  | .markerNotFound p name =>
    .holding "MarkerNotFound" (.record [("at", p.document), ("name", .letter name)])

def Compilation.document (c : Compilation) : Document :=
  .record [("rows", .list (c.rows.map StitchRow.document)), ("markers", c.markers.document),
    ("errors", .list (c.faults.map Fault.document))]

end Knitting

import Knitting.Stitch

/-! The kinds of tokens a pattern source is made of. -/
namespace Knitting

inductive Token where
  | endOfInput
  | illegal
  | integer
  | identifier
  | groupOpen
  | groupClose
  | blockOpen
  | blockClose
  | rowEnd
  | repeatSuffix
  | minus
  | sectionWord
  | repeatWord
  | knit
  | purl
  | slipSlipKnit
  | yarnOver
  | knitTogether
  | purlTogether
  | castOn
  | bindOff
  | cable (crossing : Crossing)
  | knitRun
  | purlRun
  | placeMarker
  | removeMarker
  deriving DecidableEq, Repr

namespace Token

def all : List Token :=
  [.endOfInput, .illegal, .integer, .identifier, .groupOpen, .groupClose, .blockOpen,
    .blockClose, .rowEnd, .repeatSuffix, .minus, .sectionWord, .repeatWord, .knit, .purl,
    .slipSlipKnit, .yarnOver, .knitTogether, .purlTogether, .castOn, .bindOff,
    .cable .knitForward, .cable .knitBackward, .cable .purlForward, .cable .purlBackward,
    .knitRun, .purlRun, .placeMarker, .removeMarker]

/-- Tokens that begin a stitch, the runs of knit and purl stitches included. -/
def isStitch : Token → Bool
  | .knit | .purl | .slipSlipKnit | .yarnOver => true
  | .knitTogether | .purlTogether | .castOn | .bindOff | .cable _ => true
  | .knitRun | .purlRun => true
  | _ => false

def isMarkerAction : Token → Bool
  | .placeMarker | .removeMarker => true
  | _ => false

def name : Token → String
  | .endOfInput => "end of input"
  | .illegal => "illegal character"
  | .integer => "integer"
  | .identifier => "identifier"
  | .groupOpen => "'('"
  | .groupClose => "')'"
  | .blockOpen => "'\x7b'"
  | .blockClose => "'\x7d'"
  | .rowEnd => "';'"
  | .repeatSuffix => "'*'"
  | .minus => "'-'"
  | .sectionWord => "'section'"
  | .repeatWord => "'repeat'"
  | .knit => "knit"
  | .purl => "purl"
  | .slipSlipKnit => "ssk"
  | .yarnOver => "yarn over"
  | .knitTogether => "knit together"
  | .purlTogether => "purl together"
  | .castOn => "cast on"
  | .bindOff => "bind off"
  | .cable .knitForward => "cable forward"
  | .cable .knitBackward => "cable backward"
  | .cable .purlForward => "purl cable forward"
  | .cable .purlBackward => "purl cable backward"
  | .knitRun => "knit run"
  | .purlRun => "purl run"
  | .placeMarker => "place marker"
  | .removeMarker => "remove marker"

def label : Token → String
  | .endOfInput => "Eof"
  | .illegal => "Illegal"
  | .integer => "Int"
  | .identifier => "Ident"
  | .groupOpen => "GroupOpen"
  | .groupClose => "GroupClose"
  | .blockOpen => "BlockOpen"
  | .blockClose => "BlockClose"
  | .rowEnd => "RowEnd"
  | .repeatSuffix => "RepeatSuffix"
  | .minus => "Neg"
  | .sectionWord => "Section"
  | .repeatWord => "RepeatBlock"
  | .knit => "Knit"
  | .purl => "Purl"
  | .slipSlipKnit => "Ssk"
  | .yarnOver => "YarnOver"
  | .knitTogether => "KnitTogether"
  | .purlTogether => "PurlTogether"
  | .castOn => "CastOn"
  | .bindOff => "BindOff"
  | .cable .knitForward => "CableForward"
  | .cable .knitBackward => "CableBackward"
  | .cable .purlForward => "PurlCableForward"
  | .cable .purlBackward => "PurlCableBackward"
  | .knitRun => "KnitRun"
  | .purlRun => "PurlRun"
  | .placeMarker => "PlaceMarker"
  | .removeMarker => "RemoveMarker"

end Token

end Knitting

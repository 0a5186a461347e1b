import Knitting.Source.Lexeme
import Knitting.Text.Quoted

/-! What can be wrong with the text of a pattern, each error with the place of the lexeme at
which reading stopped. -/
namespace Knitting
open Text

inductive Expected where
  | token (token : Token)
  | expression
  | stitch
  | repeatCount
  deriving DecidableEq, Repr

def Expected.text : Expected → String
  | .token t => t.name
  | .expression => "a stitch, group or marker"
  | .stitch => "a stitch"
  | .repeatCount => "an integer or '-'"

inductive ParseError where
  | unexpectedToken (position : Position) (expected : Expected) (found : Token) (literal : String)
  | unexpectedEnd (position : Position) (expected : Expected)
  | invalidCount (position : Position) (literal : String)
  | invalidCable (position : Position) (literal : String)
  | invalidMarkerName (position : Position) (literal : String)
  | emptyRow (position : Position)
  deriving DecidableEq, Repr

namespace ParseError

def position : ParseError → Position
  | .unexpectedToken p _ _ _ | .unexpectedEnd p _ | .invalidCount p _ | .invalidCable p _ => p
  | .invalidMarkerName p _ | .emptyRow p => p

def unplaced : ParseError → ParseError
  | .unexpectedToken _ e t l => .unexpectedToken .start e t l
  | .unexpectedEnd _ e => .unexpectedEnd .start e
  | .invalidCount _ l => .invalidCount .start l
  | .invalidCable _ l => .invalidCable .start l
  | .invalidMarkerName _ l => .invalidMarkerName .start l
  | .emptyRow _ => .emptyRow .start

def message : ParseError → String
  | .unexpectedToken p e t l =>
    s!"expected {e.text}, found {t.name} {quoteText l} at {p.text}"
  | .unexpectedEnd p e => s!"unexpected end of input at {p.text}, expected {e.text}"
  | .invalidCount p l => s!"invalid count {quoteText l} at {p.text}"
  | .invalidCable p l => s!"invalid cable parameters {quoteText l} at {p.text}"
  | .invalidMarkerName p l => s!"invalid marker name {quoteText l} at {p.text}"
  | .emptyRow p => s!"empty row at {p.text}"

end ParseError

end Knitting

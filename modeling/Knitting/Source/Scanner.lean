import Knitting.Source.Lexeme

/-! # The scanner

The source lies in memory as UTF-8, and a scanner goes over it piece by piece. It keeps the position
of one byte, and counts on from there where a lexeme begins and where it ends. Blanks are counted
with the lexeme behind them, every character by the byte that it begins with. The end of a row or of
a comment begins the next line, and what stands before it is not counted.
-/
namespace Knitting

def utf8 (cs : List Char) : List UInt8 := cs.flatMap String.utf8EncodeChar

/-- The byte begins a character: those that go on with one have `10` for their first bits. -/
def beginsChar (b : UInt8) : Bool := b &&& 0xC0 != 0x80

/-- A byte of the source, and the position of the character there. -/
structure ByteCursor where
  source : List UInt8
  offset : Nat
  position : Position
  deriving Repr

namespace ByteCursor

/-- Moves forward over the source up to byte `target`. -/
def advanceTo (target : Nat) (c : ByteCursor) : ByteCursor :=
  if target ≤ c.offset then c
  else
    let passed := (c.source.take target).drop c.offset
    { c with offset := target, position := c.position.right (passed.countP beginsChar) }

/-- Begins the next line at byte `stop`. -/
def newLine (stop : Nat) (c : ByteCursor) : ByteCursor :=
  { c with offset := stop, position := c.position.nextLine }

end ByteCursor

/-- The pieces ahead, and the byte that they begin at. -/
structure Scanner where
  ahead : List Piece
  start : Nat
  cursor : ByteCursor
  deriving Repr

namespace Scanner

def ofSource (source : String) : Scanner where
  ahead := pieces source.toList
  start := 0
  cursor := ⟨source.toUTF8.data.toList, 0, .start⟩

/-- The next lexeme among the pieces that begin at byte `start`, and the scanner behind it. -/
def nextAmong : List Piece → Nat → ByteCursor → Lexeme × Scanner
  | [], start, c =>
    let c := c.advanceTo c.source.length
    (.endAt c.position, ⟨[], start, c⟩)
  | piece :: rest, start, c =>
    let stop := start + (utf8 piece.text).length
    match piece.kind with
    | .blank => nextAmong rest stop c
    | .comment => nextAmong rest stop ((c.advanceTo start).newLine stop)
    | .rowEnd =>
      let c := c.advanceTo start
      (⟨c.position, .rowEnd, ";"⟩, ⟨rest, stop, c.newLine stop⟩)
    | _ =>
      let c := c.advanceTo start
      (.ofPiece c.position piece, ⟨rest, stop, c.advanceTo stop⟩)

def next (s : Scanner) : Lexeme × Scanner := nextAmong s.ahead s.start s.cursor

def calls : Nat → Scanner → List Lexeme
  | 0, _ => []
  | k + 1, s => s.next.1 :: calls k s.next.2

end Scanner

end Knitting

import Knitting.Source.Piece
import Knitting.Source.Position
import Knitting.Source.Word

/-! # Lexemes

Blanks and comments only move the position; every other piece becomes a lexeme. The end of a
row is reported where it stands and then begins the next line, as the end of a comment does.
A stream of lexemes never runs dry: behind its last lexeme it gives the end of input forever.
-/
namespace Knitting

structure Lexeme where
  position : Position
  token : Token
  literal : String
  deriving DecidableEq, Repr

namespace Lexeme

/-- The lexeme of a piece that is neither blank, comment nor end of a row. -/
def ofPiece (p : Position) : Piece → Lexeme
  | ⟨.integer, text⟩ => ⟨p, .integer, String.ofList text⟩
  | ⟨.word, text⟩ => ⟨p, (classify text).1, (classify text).2⟩
  | ⟨.minus, text⟩ => ⟨p, .minus, String.ofList text⟩
  | ⟨.blockOpen, text⟩ => ⟨p, .blockOpen, String.ofList text⟩
  | ⟨.blockClose, text⟩ => ⟨p, .blockClose, String.ofList text⟩
  | ⟨.groupOpen, text⟩ => ⟨p, .groupOpen, String.ofList text⟩
  | ⟨.groupClose, text⟩ => ⟨p, .groupClose, String.ofList text⟩
  | ⟨.repeatSuffix, text⟩ => ⟨p, .repeatSuffix, String.ofList text⟩
  | ⟨_, text⟩ => ⟨p, .illegal, String.ofList text⟩

def endAt (p : Position) : Lexeme := ⟨p, .endOfInput, ""⟩

/-- Position, kind and literal, separated by tabulators. -/
def text (l : Lexeme) : String := s!"{l.position.text}\t{l.token.label}\t{l.literal}"

end Lexeme

/-- The lexemes ahead, and the position at which the source ends. -/
structure LexemeStream where
  lexemes : List Lexeme
  finish : Position
  deriving DecidableEq, Repr

namespace LexemeStream

def cons (l : Lexeme) (s : LexemeStream) : LexemeStream := { s with lexemes := l :: s.lexemes }

/-- The lexemes of pieces of which the first stands at `p`. -/
def ofPieces (p : Position) : List Piece → LexemeStream
  | [] => ⟨[], p⟩
  | piece :: rest =>
    match piece.kind with
    | .blank => ofPieces (p.right piece.text.length) rest
    | .comment => ofPieces p.nextLine rest
    | .rowEnd => (ofPieces p.nextLine rest).cons ⟨p, .rowEnd, ";"⟩
    | _ => (ofPieces (p.right piece.text.length) rest).cons (.ofPiece p piece)

def ofSource (source : String) : LexemeStream := ofPieces .start (pieces source.toList)

def next (s : LexemeStream) : Lexeme × LexemeStream :=
  match s.lexemes with
  | [] => (.endAt s.finish, s)
  | l :: ls => (l, ⟨ls, s.finish⟩)

/-- The lexemes ahead, followed by one end of input. -/
def toList (s : LexemeStream) : List Lexeme := s.lexemes ++ [.endAt s.finish]

end LexemeStream

def tokenize (source : String) : List Lexeme := (LexemeStream.ofSource source).toList

end Knitting

import Knitting.Text.Blank
import Knitting.Text.Letter
import Knitting.Text.DecimalDigit

/-! # Pieces of source

A source is cut into pieces: runs of blanks, line comments, numbers, words and single
characters. Every piece is as long as it can be, and no character is lost.
-/
namespace Knitting
open Text

inductive PieceKind where
  | blank
  | comment
  | integer
  | word
  | rowEnd
  | minus
  | blockOpen
  | blockClose
  | groupOpen
  | groupClose
  | repeatSuffix
  | unknown
  deriving DecidableEq, Repr

structure Piece where
  kind : PieceKind
  text : List Char
  deriving DecidableEq, Repr

def punctuation? : Char → Option PieceKind
  | ';' => some .rowEnd
  | '-' => some .minus
  | '{' => some .blockOpen
  | '}' => some .blockClose
  | '(' => some .groupOpen
  | ')' => some .groupClose
  | '*' => some .repeatSuffix
  | _ => none

/-- Characters that go on with a word: letters and digits of any script, `_` and `/`. -/
def isWordChar (c : Char) : Bool :=
  isLetter c || isDecimalDigit c || c == '_' || c == '/'

/-- The line a source begins with, its end included, and what follows it. -/
def takeLine : List Char → List Char × List Char
  | [] => ([], [])
  | c :: cs => if c = '\n' then ([c], cs) else (c :: (takeLine cs).1, (takeLine cs).2)

theorem takeLine_append (cs : List Char) : (takeLine cs).1 ++ (takeLine cs).2 = cs := by
  induction cs with
  | nil => rfl
  | cons c cs ih => by_cases h : c = '\n' <;> simp [takeLine, h, ih]

namespace Piece

/-- The piece that begins with `c`, and what follows it. -/
def first (c : Char) (cs : List Char) : Piece × List Char :=
  if isBlank c then (⟨.blank, c :: cs.takeWhile isBlank⟩, cs.dropWhile isBlank)
  else if let some kind := punctuation? c then (⟨kind, [c]⟩, cs)
  else if c = '/' ∧ cs.head? = some '/' then
    (⟨.comment, c :: (takeLine cs).1⟩, (takeLine cs).2)
  else if c.isDigit then (⟨.integer, c :: cs.takeWhile Char.isDigit⟩, cs.dropWhile Char.isDigit)
  else if isLetter c then (⟨.word, c :: cs.takeWhile isWordChar⟩, cs.dropWhile isWordChar)
  else (⟨.unknown, [c]⟩, cs)

theorem first_append (c : Char) (cs : List Char) :
    (first c cs).1.text ++ (first c cs).2 = c :: cs := by
  unfold first
  repeat' split
  all_goals simp [takeLine_append]

theorem first_text_ne_nil (c : Char) (cs : List Char) : (first c cs).1.text ≠ [] := by
  unfold first
  repeat' split
  all_goals simp

theorem first_rest_lt (c : Char) (cs : List Char) : (first c cs).2.length < (c :: cs).length := by
  have happ := congrArg List.length (first_append c cs)
  have hpos := List.length_pos_iff.2 (first_text_ne_nil c cs)
  simp only [List.length_append] at happ
  omega

end Piece

def pieces : List Char → List Piece
  | [] => []
  | c :: cs => (Piece.first c cs).1 :: pieces (Piece.first c cs).2
termination_by cs => cs.length
decreasing_by exact Piece.first_rest_lt c cs

/-- No character of a source is lost. -/
theorem flatMap_text_pieces (cs : List Char) : (pieces cs).flatMap Piece.text = cs := by
  fun_induction pieces cs with
  | case1 => rfl
  | case2 c cs ih => rw [List.flatMap_cons, ih, Piece.first_append]

end Knitting

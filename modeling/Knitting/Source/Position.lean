/-! Positions in pattern source. Lines count rows, not physical lines: the end of a row or of
a line comment begins the next line. -/
namespace Knitting

structure Position where
  line : Nat
  column : Nat
  deriving DecidableEq, Repr

namespace Position

def start : Position := ⟨1, 1⟩

def right (p : Position) (n : Nat) : Position := ⟨p.line, p.column + n⟩

def nextLine (p : Position) : Position := ⟨p.line + 1, 1⟩

@[simp] theorem right_zero (p : Position) : p.right 0 = p := rfl

@[simp] theorem right_right (p : Position) (m n : Nat) : (p.right m).right n = p.right (m + n) := by
  simp [right, Nat.add_assoc]

@[simp] theorem nextLine_right (p : Position) (n : Nat) : (p.right n).nextLine = p.nextLine := rfl

def text (p : Position) : String := s!"{p.line}:{p.column}"

end Position

end Knitting

import Knitting.Source.Position
import Knitting.Stitch

/-! # Patterns

A pattern is a list of sections. A section holds rows, and blocks of rows that are worked
several times. A row is a list of expressions: stitches, groups, repeats and marker actions.
-/
namespace Knitting

inductive MarkerAction where
  | place (name : Char)
  | remove (name : Char)
  deriving DecidableEq, Repr

def MarkerAction.name : MarkerAction → Char
  | .place name | .remove name => name

/-- What a row is made of. `times content 0` works the content as often as fits into what is
left of the previous row; `leaving content n` works it until `n` stitches are left. -/
inductive Expr where
  | stitch (s : Stitch)
  | group (content : List Expr)
  | times (content : Expr) (count : UInt32)
  | leaving (content : Expr) (count : UInt32)
  | marker (action : MarkerAction)
  deriving Repr

/-- Induction on expressions; the hypothesis for a group speaks of each of its members. -/
@[elab_as_elim, induction_eliminator]
theorem Expr.induction {P : Expr → Prop} (stitch : ∀ s, P (.stitch s))
    (group : ∀ es, (∀ e ∈ es, P e) → P (.group es))
    (times : ∀ e count, P e → P (.times e count))
    (leaving : ∀ e count, P e → P (.leaving e count))
    (marker : ∀ action, P (.marker action)) : ∀ e, P e
  | .stitch s => stitch s
  | .group es => group es fun e _ => Expr.induction stitch group times leaving marker e
  | .times e count => times e count (Expr.induction stitch group times leaving marker e)
  | .leaving e count => leaving e count (Expr.induction stitch group times leaving marker e)
  | .marker action => marker action

structure Row where
  content : List Expr
  position : Position
  deriving Repr

structure Block where
  rows : List Row
  count : UInt32
  deriving Repr

inductive Item where
  | row (row : Row)
  | block (block : Block)
  deriving Repr

structure Section where
  name : String
  content : List Item
  deriving Repr

namespace Expr

/-- The largest total that an expression's advance is told apart up to. -/
def advanceLimit : Nat := UInt64.size - 1

def saturate (n : Nat) : Nat := min n advanceLimit

mutual

/-- Advance of one expansion, as far as it is known without a previous row: a repeat whose
count depends on the previous row counts nothing. Sums and products stop at the limit. -/
def advance : Expr → Nat
  | .stitch s => s.advance
  | .group es => advanceAll es
  | .times e n => saturate (e.advance * n.toNat)
  | .leaving _ _ => 0
  | .marker _ => 0

def advanceAll : List Expr → Nat
  | [] => 0
  | e :: es => saturate (e.advance + advanceAll es)

end

end Expr

def Item.rowCount : Item → Nat
  | .row _ => 1
  | .block b => b.rows.length * b.count.toNat

def Section.rowCount (s : Section) : Nat := (s.content.map Item.rowCount).foldr (· + ·) 0

end Knitting

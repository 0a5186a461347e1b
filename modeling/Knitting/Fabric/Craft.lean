import Knitting.Fabric.Fault
import Knitting.Pattern.Basic

/-! # Working an expression

Expressions are worked in one way, on whatever the row lies. A craft says how one stitch and one
marker action are done there, and what can be counted. An expression is worked from left to right,
and working it stops at the first thing that cannot be done.
-/
namespace Knitting

/-- Numbers to count stitches with. -/
class Tally (ν : Type) extends OfNat ν 0, Div ν where
  ofWord : UInt32 → ν
  /-- The difference, or zero. -/
  minus : ν → ν → ν
  toNat : ν → Nat
  eq_of_toNat : ∀ {a b : ν}, toNat a = toNat b → a = b
  toNat_zero : toNat 0 = 0
  toNat_ofWord : ∀ n, toNat (ofWord n) = n.toNat
  toNat_minus : ∀ a b, toNat (minus a b) = toNat a - toNat b
  toNat_div : ∀ a b, toNat (a / b) = toNat a / toNat b

instance : Tally Nat where
  ofWord n := n.toNat
  minus a b := a - b
  toNat n := n
  eq_of_toNat h := h
  toNat_zero := rfl
  toNat_ofWord _ := rfl
  toNat_minus _ _ := rfl
  toNat_div _ _ := rfl

structure Craft (σ ε ν : Type) where
  work : Stitch → σ → Except ε σ
  mark : MarkerAction → σ → Except ε σ
  stop : Fault → σ → ε
  place : σ → Place
  /-- Stitches in the row so far. -/
  count : σ → Nat
  /-- Weight of the previous row; nothing before the first row. -/
  available : σ → Option ν
  /-- Stitches of the previous row worked so far. -/
  worked : σ → ν
  /-- The same, told by the stitches in the row. -/
  received : σ → Except ε ν
  /-- What one pass over an expression works of the previous row. -/
  advance : Expr → ν

namespace Craft

variable {σ ε ν : Type}

/-- Makes up to `passes` passes. A pass that adds no stitch leaves everything where every later
pass would leave it again, so the second such pass is the last; `idle` tells whether there has
been one. -/
def repeatPasses (count : σ → Nat) (pass : σ → Except ε σ) : Nat → Bool → σ → Except ε σ
  | 0, _, a => .ok a
  | passes + 1, idle, a =>
    match pass a with
    | .error stop => .error stop
    | .ok next =>
      if count next = count a then
        if idle then .ok next else repeatPasses count pass passes true next
      else repeatPasses count pass passes idle next

variable [Tally ν] [DecidableEq ν] (c : Craft σ ε ν)

/-- What is left of the previous row, and the advance of one pass over the content. -/
def budget (content : Expr) (a : σ) : Except ε (ν × ν) :=
  match c.available a with
  | none => .error (c.stop (.noPreviousRow (c.place a)) a)
  | some available =>
    if c.advance content = 0 then .error (c.stop (.zeroAdvanceRepeat (c.place a)) a)
    else .ok (Tally.minus available (c.worked a), c.advance content)

/-- How often `times content count` works its content from here. -/
def passesOf (content : Expr) (count : UInt32) (a : σ) : Except ε ν :=
  if count = 0 then (c.budget content a).map fun (remaining, advance) => remaining / advance
  else .ok (Tally.ofWord count)

/-- How often `leaving content count` works its content from here. -/
def passesLeaving (content : Expr) (count : UInt32) (a : σ) : Except ε ν :=
  (c.budget content a).map fun (remaining, advance) =>
    Tally.minus remaining (Tally.ofWord count) / advance

mutual

def expand : Expr → σ → Except ε σ
  | .stitch s, a => c.work s a
  | .group es, a => expandAll es a
  | .times e count, a => do
    let passes ← c.passesOf e count a
    repeatPasses c.count (fun a => expand e a) (Tally.toNat passes) false a
  | .leaving e count, a => do
    let passes ← c.passesLeaving e count a
    repeatPasses c.count (fun a => expand e a) (Tally.toNat passes) false a
  | .marker action, a => c.mark action a

def expandAll : List Expr → σ → Except ε σ
  | [], a => .ok a
  | e :: es, a => do
    let next ← expand e a
    expandAll es next

end

/-- Works a row to its end, where it must have worked the whole previous row. -/
def workRow (content : List Expr) (a : σ) : Except ε σ := do
  let done ← c.expandAll content a
  let received ← c.received done
  match c.available done with
  | none => .ok done
  | some expected =>
    if expected = received then .ok done
    else
      .error (c.stop (.countMismatch (c.place done) (Tally.toNat expected)
        (Tally.toNat received)) done)

end Craft

end Knitting

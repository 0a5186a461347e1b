import Knitting.Fabric.Craft
import Knitting.Fabric.MarkerTable
import Knitting.Fabric.StitchRow

/-! # Working a row

The needle holds the row being worked: its stitches so far, the column of the next stitch of
the previous row, and the markers as they will be once the row is done. An expression is worked
from left to right. Working it stops at the first stitch or marker action that cannot be done,
and the snag keeps the needle as it was then.
-/
namespace Knitting

structure Needle where
  number : UInt32
  /-- Weight of the previous row; nothing before the first row. -/
  available : Option Nat
  column : Nat
  /-- The stitches so far, the last one first. -/
  latest : List Stitch
  count : Nat
  count_eq : count = latest.length := by rfl
  markers : MarkerTable
  deriving Repr

/-- A fault, and the needle at the moment it arose. -/
structure Snag where
  fault : Fault
  needle : Needle
  deriving Repr

namespace Needle

def place (n : Needle) : Place := ⟨n.number, n.column⟩

/-- Stitches of the previous row worked so far. -/
def worked (n : Needle) : Nat := n.column - 1

def row (n : Needle) : StitchRow := ⟨n.number, n.latest.reverse⟩

def append (n : Needle) (s : Stitch) : Needle where
  number := n.number
  available := n.available
  column := n.column + s.advance
  latest := s :: n.latest
  count := n.count + 1
  count_eq := by rw [n.count_eq, List.length_cons]
  markers := n.markers

@[simp] theorem stitches_append (n : Needle) (s : Stitch) :
    (n.append s).row.stitches = n.row.stitches ++ [s] := by
  simp [row, append]

/-- Works one stitch, if the row has room for it and the previous row has the stitches for it. -/
def work (s : Stitch) (n : Needle) : Except Snag Needle :=
  if rowLimit ≤ n.count then .error ⟨.rowTooLong n.place, n⟩
  else
    match n.available with
    | none => .ok (n.append s)
    | some available =>
      let required := n.worked + s.advance
      if available < required then .error ⟨.budgetExceeded n.place available required, n⟩
      else .ok (n.append s)

/-- Places a marker where the needle is, or removes one that is there. -/
def mark (action : MarkerAction) (n : Needle) : Except Snag Needle :=
  match action with
  | .place name => .ok { n with markers := n.markers.put name n.place }
  | .remove name =>
    match n.markers.get? name with
    | some _ => .ok { n with markers := n.markers.erase name }
    | none => .error ⟨.markerNotFound n.place name, n⟩

def craft : Craft Needle Snag Nat where
  work := work
  mark := mark
  stop := .mk
  place := place
  count := count
  available := available
  worked := worked
  received n := .ok n.row.advance
  advance := Expr.advance

def budget (content : Expr) (n : Needle) : Except Snag (Nat × Nat) := craft.budget content n

def passesOf (content : Expr) (count : UInt32) (n : Needle) : Except Snag Nat :=
  craft.passesOf content count n

def passesLeaving (content : Expr) (count : UInt32) (n : Needle) : Except Snag Nat :=
  craft.passesLeaving content count n

def workRow (content : List Expr) (n : Needle) : Except Snag Needle := craft.workRow content n

end Needle

namespace Expr
open Needle

def expand (e : Expr) (n : Needle) : Except Snag Needle := craft.expand e n

def expandAll (es : List Expr) (n : Needle) : Except Snag Needle := craft.expandAll es n

theorem expand_group (es : List Expr) (n : Needle) : (group es).expand n = expandAll es n := rfl

theorem expand_times (e : Expr) (count : UInt32) (n : Needle) :
    (times e count).expand n =
      match n.passesOf e count with
      | .error snag => .error snag
      | .ok passes => Craft.repeatPasses Needle.count e.expand passes false n := by
  rw [expand, Craft.expand, passesOf]
  cases craft.passesOf e count n <;> rfl

theorem expand_leaving (e : Expr) (count : UInt32) (n : Needle) :
    (leaving e count).expand n =
      match n.passesLeaving e count with
      | .error snag => .error snag
      | .ok passes => Craft.repeatPasses Needle.count e.expand passes false n := by
  rw [expand, Craft.expand, passesLeaving]
  cases craft.passesLeaving e count n <;> rfl

theorem expandAll_nil (n : Needle) : expandAll [] n = .ok n := rfl

theorem expandAll_cons (e : Expr) (es : List Expr) (n : Needle) :
    expandAll (e :: es) n =
      match e.expand n with
      | .error snag => .error snag
      | .ok next => expandAll es next := by
  rw [expandAll, Craft.expandAll, expand]
  cases craft.expand e n <;> rfl

end Expr

namespace Needle

theorem budget_eq (content : Expr) (n : Needle) :
    n.budget content =
      match n.available with
      | none => .error ⟨.noPreviousRow n.place, n⟩
      | some available =>
        if content.advance = 0 then .error ⟨.zeroAdvanceRepeat n.place, n⟩
        else .ok (available - n.worked, content.advance) := by
  unfold budget Craft.budget
  cases below : n.available <;> simp only [craft, below] <;> rfl

theorem passesOf_eq (content : Expr) (count : UInt32) (n : Needle) :
    n.passesOf content count =
      if count = 0 then (n.budget content).map fun (remaining, advance) => remaining / advance
      else .ok count.toNat := rfl

theorem passesLeaving_eq (content : Expr) (count : UInt32) (n : Needle) :
    n.passesLeaving content count =
      (n.budget content).map fun (remaining, advance) => (remaining - count.toNat) / advance := rfl

theorem workRow_eq (content : List Expr) (n : Needle) :
    n.workRow content =
      match Expr.expandAll content n with
      | .error snag => .error snag
      | .ok done =>
        match done.available with
        | none => .ok done
        | some expected =>
          if expected = done.row.advance then .ok done
          else .error ⟨.countMismatch done.place expected done.row.advance, done⟩ := by
  rw [workRow, Craft.workRow, Expr.expandAll]
  cases craft.expandAll content n with
  | error snag => rfl
  | ok done => cases below : done.available <;> simp only [craft, bind, Except.bind, below] <;> rfl

end Needle

end Knitting

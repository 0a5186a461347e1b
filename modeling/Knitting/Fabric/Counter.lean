import Knitting.Fabric.Basic

/-! # Counting in 64 bits

A needle counts stitches without a bound. The counter does the same work in 64-bit words: the sums
over a row and the column of the cursor wrap, the advance of an expression stops at the largest
word, and what is left of the previous row stops at zero.
-/
namespace Knitting

def sumOrMax (a b : UInt64) : UInt64 := .ofNat (min (a.toNat + b.toNat) (UInt64.size - 1))

def productOrMax (a b : UInt64) : UInt64 := .ofNat (min (a.toNat * b.toNat) (UInt64.size - 1))

def differenceOrZero (a b : UInt64) : UInt64 := if b ≤ a then a - b else 0

theorem toNat_differenceOrZero (a b : UInt64) :
    (differenceOrZero a b).toNat = a.toNat - b.toNat := by
  by_cases h : b ≤ a
  · rw [differenceOrZero, if_pos h, UInt64.toNat_sub_of_le _ _ h]
  · rw [differenceOrZero, if_neg h]
    rw [UInt64.le_iff_toNat_le] at h
    exact (Nat.sub_eq_zero_of_le (by omega)).symm

instance : Tally UInt64 where
  ofWord n := n.toUInt64
  minus := differenceOrZero
  toNat a := a.toNat
  eq_of_toNat := UInt64.toNat_inj.1
  toNat_zero := rfl
  toNat_ofWord n := UInt32.toNat_toUInt64 n
  toNat_minus := toNat_differenceOrZero
  toNat_div := UInt64.toNat_div

namespace Stitch

def weight64 : Stitch → UInt64
  | .knit | .purl | .slipSlipKnit | .yarnOver => 1
  | .knitTogether _ | .purlTogether _ => 1
  | .castOn n => n.toUInt64
  | .bindOff _ => 0
  | .cable _ front back => front.toUInt64 + back.toUInt64

def advance64 : Stitch → UInt64
  | .knit | .purl => 1
  | .slipSlipKnit => 2
  | .yarnOver | .castOn _ => 0
  | .knitTogether n | .purlTogether n | .bindOff n => n.toUInt64
  | .cable _ front back => front.toUInt64 + back.toUInt64

end Stitch

namespace StitchRow

def weight64 (r : StitchRow) : UInt64 := (r.stitches.map Stitch.weight64).foldl (· + ·) 0

def advance64 (r : StitchRow) : UInt64 := (r.stitches.map Stitch.advance64).foldl (· + ·) 0

end StitchRow

namespace Expr

mutual

def advance64 : Expr → UInt64
  | .stitch s => s.advance64
  | .group es => advanceFrom64 0 es
  | .times e n => productOrMax e.advance64 n.toUInt64
  | .leaving _ _ => 0
  | .marker _ => 0

/-- The advance of several expressions, on top of what has been added up before them. -/
def advanceFrom64 (total : UInt64) : List Expr → UInt64
  | [] => total
  | e :: es => advanceFrom64 (sumOrMax total e.advance64) es

end

end Expr

structure Counter where
  number : UInt32
  available : Option UInt64
  column : UInt64
  /-- The stitches so far, the last one first. -/
  latest : List Stitch
  markers : MarkerTable
  deriving Repr

namespace Counter

def place (c : Counter) : Place := ⟨c.number, c.column.toNat⟩

def worked (c : Counter) : UInt64 := c.column - 1

def row (c : Counter) : StitchRow := ⟨c.number, c.latest.reverse⟩

def append (c : Counter) (s : Stitch) : Counter :=
  { c with column := c.column + s.advance64, latest := s :: c.latest }

def work (s : Stitch) (c : Counter) : Except Fault Counter :=
  if rowLimit ≤ c.latest.length then .error (.rowTooLong c.place)
  else
    match c.available with
    | none => .ok (c.append s)
    | some available =>
      let required := c.worked + s.advance64
      if available < required then .error (.budgetExceeded c.place available.toNat required.toNat)
      else .ok (c.append s)

def mark (action : MarkerAction) (c : Counter) : Except Fault Counter :=
  match action with
  | .place name => .ok { c with markers := c.markers.put name c.place }
  | .remove name =>
    match c.markers.get? name with
    | some _ => .ok { c with markers := c.markers.erase name }
    | none => .error (.markerNotFound c.place name)

def craft : Craft Counter Fault UInt64 where
  work := work
  mark := mark
  stop fault _ := fault
  place := place
  count c := c.latest.length
  available := available
  worked := worked
  received c := .ok c.row.advance64
  advance := Expr.advance64

def budget (content : Expr) (c : Counter) : Except Fault (UInt64 × UInt64) :=
  craft.budget content c

def passesOf (content : Expr) (count : UInt32) (c : Counter) : Except Fault UInt64 :=
  craft.passesOf content count c

def passesLeaving (content : Expr) (count : UInt32) (c : Counter) : Except Fault UInt64 :=
  craft.passesLeaving content count c

def expand (e : Expr) (c : Counter) : Except Fault Counter := craft.expand e c

def expandAll (es : List Expr) (c : Counter) : Except Fault Counter := craft.expandAll es c

def workRow (content : List Expr) (c : Counter) : Except Fault Counter := craft.workRow content c

end Counter

namespace Fabric

def counter (f : Fabric) : Counter where
  number := f.attempted + 1
  available := f.previous.map StitchRow.weight64
  column := 1
  latest := []
  markers := f.markers

def addRow64 (f : Fabric) (r : Row) : Fabric × Option Fault :=
  match f.counter.workRow r.content with
  | .ok done =>
    ({ f with rows := f.rows.push done.row, markers := done.markers,
              attempted := f.attempted + 1 }, none)
  | .error fault =>
    ({ f with faults := f.faults.push fault, attempted := f.attempted + 1 }, some fault)

def tryRow64 (policy : Policy) (f : Fabric) (r : Row) : Except Halt Fabric :=
  match f.addRow64 r, policy with
  | (next, some fault), .strict => .error ⟨fault, next⟩
  | (next, _), _ => .ok next

end Fabric

end Knitting

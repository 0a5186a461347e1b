import Knitting.Fabric.Needle
import Knitting.Pattern.Reader
import Knitting.Pattern.Unrolled

/-! # Working a pattern

The fabric holds the rows that have been worked, the markers they left and the faults of the
rows that could not be worked. A row with a fault leaves nothing behind but the fault, and its
number, which is not given again. The next row is checked against the last row that was worked.
-/
namespace Knitting

/-- What becomes of the rest of a pattern when one of its rows has a fault. -/
inductive Policy where
  | strict
  | bestEffort
  deriving DecidableEq, Repr

namespace Policy

def text : Policy → String
  | .strict => "strict"
  | .bestEffort => "best-effort"

def ofText? : String → Option Policy
  | "strict" => some .strict
  | "best-effort" => some .bestEffort
  | _ => none

def unknownMessage (text : String) : String :=
  s!"unknown error policy '{text}' (expected 'strict' or 'best-effort')"

end Policy

structure Fabric where
  rows : Array StitchRow := #[]
  markers : MarkerTable := .empty
  faults : Array Fault := #[]
  /-- Rows begun so far, as a 32-bit word; the next row has the number after it. -/
  attempted : UInt32 := 0
  deriving Repr

/-- The fabric as a fault under the strict policy left it. -/
structure Halt where
  fault : Fault
  fabric : Fabric
  deriving Repr

namespace Fabric

def empty : Fabric := {}

def previous (f : Fabric) : Option StitchRow := f.rows.back?

def needle (f : Fabric) : Needle where
  number := f.attempted + 1
  available := f.previous.map StitchRow.weight
  column := 1
  latest := []
  count := 0
  markers := f.markers

def addRow (f : Fabric) (r : Row) : Fabric × Option Fault :=
  match f.needle.workRow r.content with
  | .ok done =>
    ({ f with rows := f.rows.push done.row, markers := done.markers,
              attempted := f.attempted + 1 }, none)
  | .error snag =>
    ({ f with faults := f.faults.push snag.fault, attempted := f.attempted + 1 }, some snag.fault)

/-- Works the next row; a fault halts the work under the strict policy. -/
def tryRow (policy : Policy) (f : Fabric) (r : Row) : Except Halt Fabric :=
  match f.addRow r, policy with
  | (next, some fault), .strict => .error ⟨fault, next⟩
  | (next, _), _ => .ok next

def addBlock (policy : Policy) (f : Fabric) (b : Block) : Except Halt Fabric :=
  b.visitRows (tryRow policy) f

def addSection (policy : Policy) (f : Fabric) (s : Section) : Except Halt Fabric :=
  s.visitRows (tryRow policy) f

def addSections (policy : Policy) (f : Fabric) (sections : List Section) : Except Halt Fabric :=
  visit (addSection policy) sections f

end Fabric

structure Compilation where
  rows : List StitchRow
  markers : MarkerTable
  faults : List Fault
  deriving DecidableEq, Repr

def Compilation.clean (c : Compilation) : Bool := c.faults.isEmpty

def Fabric.compilation (f : Fabric) : Compilation := ⟨f.rows.toList, f.markers, f.faults.toList⟩

def compileSections (policy : Policy) (sections : List Section) : Except Fault Compilation :=
  match Fabric.empty.addSections policy sections with
  | .ok f => .ok f.compilation
  | .error halt => .error halt.fault

inductive PatternError where
  | parse (error : ParseError)
  | compile (fault : Fault)
  deriving DecidableEq, Repr

def PatternError.message : PatternError → String
  | .parse e => s!"parse error: {e.message}"
  | .compile f => s!"compile error: {f.message}"

def compile (policy : Policy) (source : String) : Except PatternError Compilation :=
  match parse source with
  | .error e => .error (.parse e)
  | .ok sections =>
    match compileSections policy sections with
    | .error f => .error (.compile f)
    | .ok c => .ok c

end Knitting

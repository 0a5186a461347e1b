import Knitting.Fabric.Basic
import Knitting.Proofs.Row.Progress

/-! # Runs of calls on a fabric

A fabric is handed single rows, blocks, sections and whole patterns, in any order. A call that
halts leaves the fabric as the fault left it, and the next call goes on from there. Whatever is
handed over, the fabric only ever meets single rows: what `addRow` keeps holds after every run.
-/
namespace Knitting

/-- What can be handed to a fabric. -/
inductive Call where
  | row (row : Row)
  | block (block : Block)
  | part (sec : Section)
  | pattern (sections : List Section)
  deriving Repr

namespace Fabric

def settled : Except Halt Fabric → Fabric
  | .ok f => f
  | .error halt => halt.fabric

def call (policy : Policy) (f : Fabric) : Call → Fabric
  | .row r => (f.addRow r).1
  | .block b => settled (f.addBlock policy b)
  | .part s => settled (f.addSection policy s)
  | .pattern sections => settled (f.addSections policy sections)

def run (policy : Policy) (calls : List Call) : Fabric := calls.foldl (call policy) .empty

theorem settled_tryRow (policy : Policy) (f : Fabric) (r : Row) :
    settled (f.tryRow policy r) = (f.addRow r).1 := by
  unfold tryRow
  split
  · rename_i next fault h
    rw [h, settled]
  · rename_i next fault h _
    rw [h, settled]

variable {P : Fabric → Prop}

theorem settled_visit_keeps {α : Type} {step : Fabric → α → Except Halt Fabric}
    (hstep : ∀ f a, P f → P (settled (step f a))) (as : List α) {f : Fabric} (hf : P f) :
    P (settled (visit step as f)) := by
  induction as generalizing f with
  | nil => exact hf
  | cons a as ih =>
    have ha := hstep f a hf
    rw [visit]
    cases h : step f a with
    | error halt => rwa [h] at ha
    | ok next =>
      rw [h] at ha
      exact ih ha

/-- A call keeps what every row keeps. -/
theorem call_keeps (hrow : ∀ f r, P f → P (addRow f r).1) (policy : Policy) {f : Fabric}
    (c : Call) (hf : P f) : P (f.call policy c) := by
  have htry : ∀ f r, P f → P (settled (tryRow policy f r)) := by
    intro f r hf
    rw [settled_tryRow]
    exact hrow f r hf
  have hsection : ∀ f s, P f → P (settled (addSection policy f s)) := by
    intro f s hf
    rw [addSection, s.visitRows_eq_unrolled]
    exact settled_visit_keeps htry _ hf
  cases c with
  | row r => exact hrow f r hf
  | block b =>
    rw [call, addBlock, b.visitRows_eq_unrolled]
    exact settled_visit_keeps htry _ hf
  | part s => exact hsection f s hf
  | pattern sections => exact settled_visit_keeps hsection sections hf

/-- What holds of the empty fabric and is kept by every row holds after every run. -/
theorem run_keeps (hempty : P .empty) (hrow : ∀ f r, P f → P (addRow f r).1) (policy : Policy)
    (calls : List Call) : P (run policy calls) :=
  List.foldlRecOn calls (call policy) hempty fun _ hf c _ => call_keeps hrow policy c hf

/-- A row either adds its stitches and leaves its markers, or adds nothing but its fault. -/
theorem addRow_cases (f : Fabric) (r : Row) :
    (∃ done, f.needle.workRow r.content = .ok done ∧
      f.addRow r = ({ f with rows := f.rows.push done.row, markers := done.markers,
                             attempted := f.attempted + 1 }, none)) ∨
    (∃ snag, f.needle.workRow r.content = .error snag ∧
      f.addRow r = ({ f with faults := f.faults.push snag.fault,
                             attempted := f.attempted + 1 }, some snag.fault)) := by
  unfold addRow
  cases h : f.needle.workRow r.content with
  | ok done => exact .inl ⟨done, rfl, rfl⟩
  | error snag => exact .inr ⟨snag, rfl, rfl⟩

end Fabric

end Knitting

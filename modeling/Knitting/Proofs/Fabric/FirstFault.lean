import Knitting.Proofs.Fabric.Rows

/-! # Up to the first fault

The two policies go together, row by row, until a row has a fault. There the strict policy halts
with this fault. The other policy goes on, but what it adds comes behind what both have done.
-/
namespace Knitting
namespace Fabric

/-- Rows that leave no new fault are worked alike under either policy; otherwise the strict policy
comes as far as the first row with a fault, and halts there. -/
theorem visit_strict_cases (rows : List Row) (f : Fabric) :
    ((f.addRows rows).faults = f.faults ∧ visit (tryRow .strict) rows f = .ok (f.addRows rows)) ∨
    ∃ before bad after fault, rows = before ++ bad :: after ∧
      (f.addRows before).faults = f.faults ∧
      ((f.addRows before).addRow bad).2 = some fault ∧
      visit (tryRow .strict) rows f = .error ⟨fault, ((f.addRows before).addRow bad).1⟩ := by
  induction rows generalizing f with
  | nil => exact .inl ⟨rfl, rfl⟩
  | cons r rows ih =>
    rw [visit, tryRow_strict]
    cases h : (f.addRow r).2 with
    | none =>
      -- the first row is worked, so the others begin with the same faults
      rw [← faults_addRow_of_worked h]
      obtain same | ⟨before, bad, after, fault, split, halted⟩ := ih (f.addRow r).1
      · exact .inl same
      · exact .inr ⟨r :: before, bad, after, fault, by rw [split, List.cons_append], halted⟩
    | some fault => exact .inr ⟨[], r, rows, fault, rfl, rfl, h, rfl⟩

/-- The rows behind a fault leave the rows and the fault before them where they are. -/
theorem addRows_behind_fault {f : Fabric} {bad : Row} {fault : Fault} (clean : f.faults = #[])
    (failed : (f.addRow bad).2 = some fault) (after : List Row) :
    f.rows.toList <+: ((f.addRow bad).1.addRows after).rows.toList ∧
      ∃ later, ((f.addRow bad).1.addRows after).faults.toList = fault :: later := by
  have grown := grows_addRows (f.addRow bad).1 after
  have first : (f.addRow bad).1.faults.toList = [fault] := by
    rw [addRow_of_fault failed, clean]
    rfl
  obtain ⟨later, hlater⟩ := grown.faults
  exact ⟨(f.grows_addRow bad).rows.trans grown.rows, later, by rw [← hlater, first]; rfl⟩

end Fabric

open Fabric

/-- The best-effort policy always comes to the end of a pattern, with a compilation `B`. If no row
has a fault, the strict policy comes to the same. Otherwise it halts with the first fault of `B`,
and it has then the rows of `B` that were worked before that fault, and the markers they left. -/
theorem strict_stops_at_first_fault (sections : List Section) :
    ∃ B, compileSections .bestEffort sections = .ok B ∧
      ((B.faults = [] ∧ compileSections .strict sections = .ok B) ∨
        ∃ (before : List Row) (bad : Row) (after : List Row) (fault : Fault) (later : List Fault)
          (f : Fabric) (halt : Halt),
          -- the best-effort policy comes to `f` before it meets the first bad row
          Section.unrolledAll sections = before ++ bad :: after ∧
          f = Fabric.empty.addRows before ∧ f.faults = #[] ∧ (f.addRow bad).2 = some fault ∧
          B = ((f.addRow bad).1.addRows after).compilation ∧ B.faults = fault :: later ∧
          compileSections .strict sections = .error fault ∧
          Fabric.empty.addSections .strict sections = .error halt ∧
          halt.fault = fault ∧ halt.fabric.faults = #[fault] ∧
          halt.fabric.rows = f.rows ∧ halt.fabric.rows.toList = B.rows.take before.length ∧
          halt.fabric.markers = f.markers) := by
  refine ⟨_, compileSections_bestEffort sections, ?_⟩
  have strict := addSections_eq_visit .strict .empty sections
  obtain ⟨clean, worked⟩ | ⟨before, bad, after, fault, split, clean, failed, halted⟩ :=
    visit_strict_cases (Section.unrolledAll sections) .empty
  · left
    rw [worked] at strict
    exact ⟨by rw [compilation, clean]; rfl, by rw [compileSections, strict]⟩
  · right
    rw [halted] at strict
    obtain ⟨front, later, hlater⟩ := addRows_behind_fault clean failed after
    have stopped := addRow_of_fault failed
    have rows : (Fabric.empty.addRows before).rows.toList.length = before.length := by
      have size := size_addRows .empty before
      rw [clean] at size
      simpa [Fabric.empty] using size
    have end_eq : Fabric.empty.addRows (Section.unrolledAll sections) =
        ((Fabric.empty.addRows before).addRow bad).1.addRows after := by
      rw [split, addRows_append, addRows_cons]
    refine ⟨before, bad, after, fault, later, _, _, split, rfl, clean, failed,
      congrArg compilation end_eq, ?_, ?_, strict, rfl, ?_, ?_, ?_, ?_⟩
    · rw [end_eq]
      exact hlater
    · rw [compileSections, strict]
    · rw [stopped, clean]
      rfl
    · rw [stopped]
    · rw [stopped, end_eq, ← rows]
      exact List.prefix_iff_eq_take.1 front
    · rw [stopped]

/-- Three stitches cannot be knitted together where two were cast on. The row behind is worked under
the other policy only. -/
example :
    let rows : List Item := [.row ⟨[.stitch (.castOn 2)], .start⟩,
      .row ⟨[.stitch (.knitTogether 3)], ⟨1, 7⟩⟩, .row ⟨[.stitch (.knitTogether 2)], ⟨1, 14⟩⟩]
    let fault := Fault.budgetExceeded ⟨2, 1⟩ 2 3
    compileSections .strict [⟨"hem", rows⟩] = .error fault ∧
      compileSections .bestEffort [⟨"hem", rows⟩] =
        .ok ⟨[⟨1, [.castOn 2]⟩, ⟨3, [.knitTogether 2]⟩], .empty, [fault]⟩ ∧
      ∃ halt, Fabric.empty.addSections .strict [⟨"hem", rows⟩] = .error halt ∧
        halt.fabric.rows = #[⟨1, [.castOn 2]⟩] :=
  ⟨rfl, rfl, _, rfl, rfl⟩

end Knitting

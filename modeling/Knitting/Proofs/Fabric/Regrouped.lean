import Knitting.Proofs.Fabric.Rows

/-! # Rows however grouped

Sections and blocks only put rows together. A pattern is worked as its rows are when they are handed
over one at a time, and two patterns with the same rows cannot be told apart by what they leave.
-/
namespace Knitting
namespace Fabric

/-- Adds rows one at a time. Under the strict policy the first row with a fault is the last that is
added, and its fault is the result. -/
def rowByRow (policy : Policy) (f : Fabric) : List Row → Fabric × Option Fault
  | [] => (f, none)
  | r :: rows =>
    match policy, f.addRow r with
    | .strict, (next, some fault) => (next, some fault)
    | _, (next, _) => next.rowByRow policy rows

def outcome (result : Except Halt Fabric) : Fabric × Option Fault :=
  (settled result, match result with | .ok _ => none | .error halt => some halt.fault)

theorem outcome_visit_tryRow (policy : Policy) (rows : List Row) (f : Fabric) :
    outcome (visit (tryRow policy) rows f) = f.rowByRow policy rows := by
  induction rows generalizing f with
  | nil => rfl
  | cons r rows ih =>
    cases policy with
    | strict =>
      simp only [visit, tryRow_strict, rowByRow]
      rcases f.addRow r with ⟨next, _ | fault⟩
      · exact ih next
      · rfl
    | bestEffort =>
      simp only [visit, tryRow_bestEffort, rowByRow]
      exact ih (f.addRow r).1

/-- From every fabric and under either policy, a pattern comes to what its rows come to when they
are handed over one at a time, each block written out: to the same rows, markers and faults, and to
the same halt. So patterns with the same rows, wherever these stand in the source and however they
are put into sections and blocks, are worked alike. -/
theorem grouping_never_shows (policy : Policy) (f : Fabric) (sections : List Section) :
    outcome (f.addSections policy sections) =
        f.rowByRow policy (Section.unrolledAll sections) ∧
      ∀ others : List Section,
        (Section.unrolledAll others).map Row.content =
            (Section.unrolledAll sections).map Row.content →
          f.addSections policy others = f.addSections policy sections ∧
            compileSections policy others = compileSections policy sections := by
  constructor
  · rw [addSections_eq_visit, outcome_visit_tryRow]
  · intro others same
    have alike : ∀ f : Fabric, f.addSections policy others = f.addSections policy sections := by
      intro f
      rw [addSections_eq_visit, addSections_eq_visit]
      exact visit_tryRow_congr policy same f
    exact ⟨alike f, by rw [compileSections, compileSections, alike]⟩

/-- Two stitches cast on, and a row twice over that leaves one of them. -/
def band : List Section :=
  let two : Row := ⟨[.stitch (.castOn 2)], .start⟩
  let narrow : Row := ⟨[.stitch (.knitTogether 2)], ⟨2, 3⟩⟩
  [⟨"band", [.row two, .block ⟨[narrow], 2⟩, .block ⟨[], 9⟩]⟩]

/-- The same rows in three sections, next to a block that is never worked. -/
def piecedBand : List Section :=
  let two : Row := ⟨[.stitch (.castOn 2)], ⟨7, 1⟩⟩
  let narrow : Row := ⟨[.stitch (.knitTogether 2)], ⟨8, 1⟩⟩
  [⟨"edge", []⟩, ⟨"cast", [.block ⟨[two, narrow], 1⟩, .block ⟨[two], 0⟩]⟩, ⟨"close", [.row narrow]⟩]

/-- The block is left in its second turn, with the row cast on and the first narrow row worked. -/
theorem grouping_never_shows_band :
    outcome (empty.addSections .strict band) =
        empty.rowByRow .strict (Section.unrolledAll band) ∧
      (empty.addSections .strict piecedBand = empty.addSections .strict band ∧
        compileSections .strict piecedBand = compileSections .strict band) ∧
      (compileSections .strict band = .error (.budgetExceeded ⟨3, 1⟩ 1 2) ∧
        (empty.rowByRow .strict (Section.unrolledAll band)).1.rows.size = 2) :=
  have alike := grouping_never_shows .strict empty band
  ⟨alike.1, alike.2 piecedBand rfl, rfl, rfl⟩

end Fabric
end Knitting

import Knitting.Proofs.Fabric.Rows
import Knitting.Proofs.Row.Snags

/-! # Faults that tell the truth

For every fault of a fabric there is a row that failed. Held against the rows that were worked
before it, and against the needle at which it stopped, the fault says what is so.
-/
namespace Knitting

/-- A row that failed, the fabric that it was begun on, and the snag at which it stopped. -/
structure Mishap where
  below : Fabric
  row : Row
  snag : Snag

def Mishap.fault (m : Mishap) : Fault := m.snag.fault

namespace Fabric

theorem onCourse_needle (f : Fabric) : f.needle.OnCourse where
  column := rfl
  within _ _ := Nat.zero_le _
  short := Nat.zero_le _

def mishaps (f : Fabric) : List Row → List Mishap
  | [] => []
  | r :: rows =>
    match f.needle.workRow r.content with
    | .ok _ => (f.addRow r).1.mishaps rows
    | .error snag => ⟨f, r, snag⟩ :: (f.addRow r).1.mishaps rows

/-- Every fault is that of a row that failed, in the order of the rows. -/
theorem faults_addRows (f : Fabric) (rows : List Row) :
    (f.addRows rows).faults.toList = f.faults.toList ++ (f.mishaps rows).map Mishap.fault := by
  induction rows generalizing f with
  | nil => simp [mishaps]
  | cons r rows ih =>
    rw [addRows_cons, ih, mishaps]
    obtain ⟨done, worked, hadd⟩ | ⟨snag, worked, hadd⟩ := f.addRow_cases r
    · rw [worked, hadd]
    · rw [worked, hadd]
      simp [Mishap.fault]

/-- A row that failed is one of the rows, begun on the fabric that those before it came to. -/
theorem cases_of_mem_mishaps {f : Fabric} {rows : List Row} {m : Mishap}
    (h : m ∈ f.mishaps rows) :
    (∃ before after, rows = before ++ m.row :: after ∧ m.below = f.addRows before) ∧
      m.below.needle.workRow m.row.content = .error m.snag := by
  induction rows generalizing f with
  | nil => cases h
  | cons r rows ih =>
    have later : m ∈ (f.addRow r).1.mishaps rows →
        (∃ before after, r :: rows = before ++ m.row :: after ∧ m.below = f.addRows before) ∧
          m.below.needle.workRow m.row.content = .error m.snag := by
      intro h
      obtain ⟨⟨before, after, split, below⟩, stopped⟩ := ih h
      exact ⟨⟨r :: before, after, by rw [split, List.cons_append], below⟩, stopped⟩
    rw [mishaps] at h
    cases worked : f.needle.workRow r.content with
    | ok done =>
      rw [worked] at h
      exact later h
    | error snag =>
      rw [worked] at h
      rcases List.mem_cons.1 h with rfl | h
      · exact ⟨⟨[], rows, rfl, rfl⟩, worked⟩
      · exact later h

theorem attempted_addRows (f : Fabric) (rows : List Row) :
    (f.addRows rows).attempted = f.attempted + .ofNat rows.length := by
  induction rows generalizing f with
  | nil => simp
  | cons r rows ih =>
    rw [addRows_cons, ih, attempted_addRow, List.length_cons, UInt32.ofNat_add, UInt32.add_assoc,
      UInt32.add_comm 1]
    rfl

/-- The fault of a row bears the number of the row, and names the stitch of the row below that came
next. -/
theorem place_of_workRow {f : Fabric} {r : Row} {snag : Snag}
    (h : f.needle.workRow r.content = .error snag) :
    snag.fault.place.row = f.attempted + 1 ∧
      snag.fault.place.column = 1 + Stitch.totalAdvance snag.needle.row.stitches := by
  have extended := Needle.extends_workRow r.content f.needle
  rw [h, Needle.reached_error] at extended
  rw [(Needle.truthful_of_workRow f.onCourse_needle h).1]
  exact ⟨extended.number, (Needle.onCourse_of_snag f.onCourse_needle h).column⟩

def mishapsOf (policy : Policy) (calls : List Call) : List Mishap :=
  Fabric.empty.mishaps (Fabric.empty.begunIn policy calls)

/-- The faults of a run are those of the rows that failed in it, in their order, and every one of
them tells the truth. It bears the number that the row had among all rows begun, and the column
behind the stitches that the row had when the actions done for it had led to the snag. What else it
says is true of the row below, the last one that was worked before, and of the needle at the snag:
no stitch goes beyond the row below but the one that the fault is about, and a row that does not
meet the row below ends short of it. -/
theorem faults_tell_the_truth (policy : Policy) (calls : List Call) :
    (run policy calls).faults.toList = (mishapsOf policy calls).map Mishap.fault ∧
    ∀ m ∈ mishapsOf policy calls,
      (∃ before after, Fabric.empty.begunIn policy calls = before ++ m.row :: after ∧
        m.below = Fabric.empty.addRows before ∧
        m.fault.place.row = .ofNat (before.length + 1)) ∧
      m.below.needle.actAll (Expr.doneAll m.row.content m.below.needle) = .ok m.snag.needle ∧
      m.fault.place.column = 1 + Stitch.totalAdvance m.snag.needle.row.stitches ∧
      m.fault.Truthful (m.below.previous.map StitchRow.weight) m.snag.needle := by
  constructor
  · rw [run_eq_addRows, faults_addRows, mishapsOf]
    rfl
  · intro m hm
    obtain ⟨⟨before, after, split, below⟩, stopped⟩ := cases_of_mem_mishaps hm
    obtain ⟨number, column⟩ := place_of_workRow stopped
    refine ⟨⟨before, after, split, below, ?_⟩, Needle.actAll_of_snag stopped, column,
      (Needle.truthful_of_workRow m.below.onCourse_needle stopped).2⟩
    rw [below, attempted_addRows] at number
    rw [Mishap.fault, number, UInt32.ofNat_add]
    simp [Fabric.empty]

/-- Five stitches are cast on, behind a row that has none to infer its repeat from. The others begin
well and end beyond the stitches that are left, at a marker that is not there, and too early. -/
def swatch : List Call :=
  [.pattern [⟨"swatch",
    [.row ⟨[.times (.stitch .knit) 0], .start⟩, .row ⟨[.stitch (.castOn 5)], .start⟩,
      .block ⟨[⟨[.stitch .knit, .times (.stitch .slipSlipKnit) 0, .stitch .slipSlipKnit], .start⟩],
        2⟩]⟩],
    .row ⟨[.stitch .knit, .marker (.remove 'B')], .start⟩,
    .row ⟨[.times (.stitch .purl) 3], .start⟩]

theorem faults_tell_the_truth_swatch :
    (run .bestEffort swatch).faults.toList =
      [.noPreviousRow ⟨1, 1⟩, .budgetExceeded ⟨3, 6⟩ 5 7, .budgetExceeded ⟨4, 6⟩ 5 7,
        .markerNotFound ⟨5, 2⟩ 'B', .countMismatch ⟨6, 4⟩ 5 3] ∧
      ∃ m ∈ mishapsOf .bestEffort swatch, m.fault = .countMismatch ⟨6, 4⟩ 5 3 ∧
        m.fault.place.column = 1 + Stitch.totalAdvance m.snag.needle.row.stitches ∧
        m.fault.Truthful (m.below.previous.map StitchRow.weight) m.snag.needle := by
  have faults : (run .bestEffort swatch).faults.toList =
      [.noPreviousRow ⟨1, 1⟩, .budgetExceeded ⟨3, 6⟩ 5 7, .budgetExceeded ⟨4, 6⟩ 5 7,
        .markerNotFound ⟨5, 2⟩ 'B', .countMismatch ⟨6, 4⟩ 5 3] := by decide
  obtain ⟨told, truth⟩ := faults_tell_the_truth .bestEffort swatch
  have last : .countMismatch ⟨6, 4⟩ 5 3 ∈ (mishapsOf .bestEffort swatch).map Mishap.fault := by
    rw [← told, faults]
    simp
  obtain ⟨m, hm, fault⟩ := List.mem_map.1 last
  obtain ⟨-, -, column, held⟩ := truth m hm
  exact ⟨faults, m, hm, fault, column, held⟩

end Fabric
end Knitting

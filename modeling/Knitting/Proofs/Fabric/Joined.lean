import Knitting.Proofs.Fabric.Calls

/-! # Rows that meet

Every worked row works exactly the stitches that the row below it left on the needle, and no row
is longer than the limit. Rows with a fault in between do not matter: a row is always checked
against the row that it comes to lie on.
-/
namespace Knitting

/-- A row that is worked to its end has worked the whole previous row. -/
theorem Needle.workRow_eq_ok_iff {n done : Needle} {content : List Expr} :
    n.workRow content = .ok done ↔
      Expr.expandAll content n = .ok done ∧ ∀ w ∈ done.available, done.row.advance = w := by
  rw [workRow_eq]
  cases Expr.expandAll content n with
  | error snag => simp
  | ok last =>
    dsimp only
    split
    · rename_i none
      simp only [Except.ok.injEq]
      constructor
      · rintro rfl
        exact ⟨rfl, by simp [none]⟩
      · exact fun h => h.1
    · rename_i expected some
      split
      · rename_i equal
        simp only [Except.ok.injEq]
        constructor
        · rintro rfl
          exact ⟨rfl, by simp [some, equal]⟩
        · exact fun h => h.1
      · rename_i unequal
        simp only [reduceCtorEq, Except.ok.injEq, false_iff, not_and]
        rintro rfl h
        exact unequal (h expected some).symm

namespace Fabric

/-- Neighbouring rows meet stitch by stitch, and every row is within the limit. -/
structure Joined (f : Fabric) : Prop where
  meet : ∀ i (h : i + 1 < f.rows.size), f.rows[i + 1].advance = f.rows[i].weight
  short : ∀ r ∈ f.rows, r.stitches.length ≤ rowLimit

theorem joined_empty : Joined .empty := ⟨by simp [empty], by simp [empty]⟩

/-- What is worked from the needle of a fabric meets the last row of the fabric. -/
theorem meets_previous {f : Fabric} {content : List Expr} {done : Needle}
    (h : f.needle.workRow content = .ok done) {i : Nat} (hi : i + 1 = f.rows.size) :
    done.row.advance = f.rows[i].weight := by
  obtain ⟨expanded, whole⟩ := Needle.workRow_eq_ok_iff.1 h
  apply whole
  rw [(Needle.extends_of_expandAll expanded).available]
  have last : f.rows.back? = some f.rows[i] := by
    have top : f.rows.size - 1 = i := by omega
    have below : i < f.rows.size := by omega
    simp [Array.back?_eq_getElem?, top, below]
  simp [needle, previous, last]

theorem length_le_of_workRow {f : Fabric} {content : List Expr} {done : Needle}
    (h : f.needle.workRow content = .ok done) : done.row.stitches.length ≤ rowLimit := by
  have expanded := (Needle.workRow_eq_ok_iff.1 h).1
  have hcount := Needle.expandAll_keeps (P := fun n => n.count ≤ rowLimit)
    (fun _ _ _ hact => Needle.count_le_of_act hact) content (n := f.needle) (Nat.zero_le _)
  rw [expanded, Needle.reached_ok, done.count_eq] at hcount
  simpa [Needle.row] using hcount

/-- One more row, worked or not, leaves the fabric joined. -/
theorem joined_addRow (f : Fabric) (r : Row) (hf : f.Joined) : (f.addRow r).1.Joined := by
  obtain ⟨done, worked, hadd⟩ | ⟨snag, -, hadd⟩ := f.addRow_cases r
  · rw [hadd]
    constructor
    · intro i hi
      by_cases old : i + 1 < f.rows.size
      · simpa [Array.getElem_push, old, Nat.lt_of_succ_lt old] using hf.meet i old
      · have last : i + 1 = f.rows.size := by
          simp only [Array.size_push] at hi
          omega
        have below : i < f.rows.size := by omega
        simpa [Array.getElem_push, old, below] using meets_previous worked last
    · intro row hrow
      rcases Array.mem_push.1 hrow with hrow | rfl
      · exact hf.short row hrow
      · exact length_le_of_workRow worked
  · rw [hadd]
    exact ⟨hf.meet, hf.short⟩

/-- After every run, under either policy and whatever rows had faults, neighbouring rows meet
stitch by stitch and no row is longer than 100000 stitches. -/
theorem rows_meet_within_limit (policy : Policy) (calls : List Call) :
    (∀ i (h : i + 1 < (run policy calls).rows.size),
      (run policy calls).rows[i + 1].advance = (run policy calls).rows[i].weight) ∧
    ∀ r ∈ (run policy calls).rows, r.stitches.length ≤ 100000 := by
  have joined : (run policy calls).Joined := run_keeps joined_empty joined_addRow policy calls
  exact ⟨joined.meet, joined.short⟩

/-- Three stitches are cast on, a row that works only two of them fails, and a row that decreases
once and makes one more stitch lies on the first. -/
def threeCalls : List Call :=
  [.row ⟨[.stitch (.castOn 3)], .start⟩,
    .block ⟨[⟨[.times (.stitch .knit) 2], .start⟩], 1⟩,
    .row ⟨[.stitch .slipSlipKnit, .stitch .yarnOver, .leaving (.stitch .purl) 0], .start⟩]

theorem rows_meet_within_limit_threeCalls :
    ∃ h : 0 + 1 < (run .bestEffort threeCalls).rows.size,
      (run .bestEffort threeCalls).rows[0 + 1].advance =
        (run .bestEffort threeCalls).rows[0].weight ∧
      (run .bestEffort threeCalls).rows[0 + 1].stitches.length ≤ 100000 := by
  have size : 0 + 1 < (run .bestEffort threeCalls).rows.size := by decide
  have both := rows_meet_within_limit .bestEffort threeCalls
  exact ⟨size, both.1 0 size, both.2 _ (Array.getElem_mem size)⟩

end Fabric

end Knitting

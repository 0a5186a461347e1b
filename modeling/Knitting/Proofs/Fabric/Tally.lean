import Knitting.Proofs.Fabric.Mishaps
import Mathlib.Algebra.GroupWithZero.Nat
import Mathlib.Data.List.Nodup

/-! # Every row counted once

A pattern says how many rows it stands for. Worked to its end, it leaves one entry for each of them,
a worked row or a fault, and these bear the numbers from one on.
-/
namespace Knitting

theorem Item.length_unrolled (i : Item) : i.unrolled.length = i.rowCount := by
  cases i with
  | row r => rfl
  | block b => simp [unrolled, Block.unrolled, rowCount, Nat.mul_comm]

theorem Section.length_unrolled (s : Section) : s.unrolled.length = s.rowCount := by
  unfold unrolled rowCount
  induction s.content with
  | nil => rfl
  | cons i items ih => simp [i.length_unrolled, ih]

theorem Section.length_unrolledAll (sections : List Section) :
    (unrolledAll sections).length = (sections.map rowCount).sum := by
  simp [unrolledAll, List.length_flatMap, length_unrolled]

namespace Fabric

def rowNumbers (f : Fabric) : List Nat := f.rows.toList.map fun r => r.number.toNat

def faultNumbers (f : Fabric) : List Nat := f.faults.toList.map fun x => x.place.row.toNat

/-- The rows that were worked and those that failed bear the numbers from one to `n`, each number
once, and rows and faults are in the order of their numbers. -/
structure Tallied (f : Fabric) (n : Nat) : Prop where
  attempted : f.attempted.toNat = n
  rows : f.rowNumbers.Pairwise (· < ·)
  faults : f.faultNumbers.Pairwise (· < ·)
  numbers : (f.rowNumbers ++ f.faultNumbers).Perm (List.range' 1 n)

theorem tallied_empty : Tallied .empty 0 := ⟨rfl, .nil, .nil, .nil⟩

variable {f : Fabric} {n : Nat}

theorem Tallied.le (h : f.Tallied n) {k : Nat} (hk : k ∈ f.rowNumbers ++ f.faultNumbers) :
    k ≤ n := by
  have bounds := List.mem_range'_1.1 (h.numbers.mem_iff.1 hk)
  omega

/-- Numbers in order stay so when the next number comes behind them. -/
theorem pairwise_concat_succ {ks : List Nat} (sorted : ks.Pairwise (· < ·))
    (bound : ∀ k ∈ ks, k ≤ n) : (ks ++ [n + 1]).Pairwise (· < ·) := by
  apply List.pairwise_append.2
  refine ⟨sorted, List.pairwise_singleton _ _, ?_⟩
  intro k hk next hnext
  rw [List.mem_singleton.1 hnext]
  exact Nat.lt_succ_of_le (bound k hk)

/-- The number of a row goes to the rows that were worked or to those that failed, behind all
numbers there. -/
theorem numbers_addRow (f : Fabric) (r : Row) :
    ((f.addRow r).1.rowNumbers = f.rowNumbers ++ [(f.attempted + 1).toNat] ∧
      (f.addRow r).1.faultNumbers = f.faultNumbers) ∨
    ((f.addRow r).1.rowNumbers = f.rowNumbers ∧
      (f.addRow r).1.faultNumbers = f.faultNumbers ++ [(f.attempted + 1).toNat]) := by
  obtain ⟨done, worked, hadd⟩ | ⟨snag, stopped, hadd⟩ := f.addRow_cases r
  · left
    have number := number_of_workRow worked
    rw [hadd]
    exact ⟨by simp [rowNumbers, number], rfl⟩
  · right
    have number : snag.fault.place.row = f.attempted + 1 := (place_of_workRow stopped).1
    rw [hadd]
    exact ⟨rfl, by simp [faultNumbers, number]⟩

/-- One more row takes the next number, whether it is worked or fails. -/
theorem tallied_addRow (h : f.Tallied n) (few : n + 1 < 2 ^ 32) (r : Row) :
    (f.addRow r).1.Tallied (n + 1) := by
  have next : (f.attempted + 1).toNat = n + 1 := by
    rw [toNat_attempted (by rwa [h.attempted]), h.attempted]
  have range : (f.rowNumbers ++ f.faultNumbers ++ [n + 1]).Perm (List.range' 1 (n + 1)) := by
    rw [List.range'_concat, Nat.one_mul, Nat.add_comm 1]
    exact h.numbers.append_right _
  have attempted : (f.addRow r).1.attempted.toNat = n + 1 := by rwa [attempted_addRow]
  have numbers := f.numbers_addRow r
  rw [next] at numbers
  obtain ⟨rows, faults⟩ | ⟨rows, faults⟩ := numbers
  · have sorted := pairwise_concat_succ h.rows fun k hk => h.le (List.mem_append_left _ hk)
    have behind : (f.rowNumbers ++ [n + 1] ++ f.faultNumbers).Perm
        (f.rowNumbers ++ f.faultNumbers ++ [n + 1]) := by
      rw [List.append_assoc, List.append_assoc]
      exact List.perm_append_comm.append_left _
    refine ⟨attempted, by rwa [rows], by rw [faults]; exact h.faults, ?_⟩
    rw [rows, faults]
    exact behind.trans range
  · have sorted := pairwise_concat_succ h.faults fun k hk => h.le (List.mem_append_right _ hk)
    refine ⟨attempted, by rw [rows]; exact h.rows, by rwa [faults], ?_⟩
    rw [rows, faults, ← List.append_assoc]
    exact range

theorem tallied_addRows (h : f.Tallied n) (rows : List Row) (few : n + rows.length < 2 ^ 32) :
    (f.addRows rows).Tallied (n + rows.length) := by
  induction rows generalizing f n with
  | nil => exact h
  | cons r rows ih =>
    rw [List.length_cons] at few ⊢
    rw [Nat.add_comm rows.length, ← Nat.add_assoc] at few ⊢
    exact ih (tallied_addRow h (by omega) r) few

end Fabric

/-- A pattern of less than 2^32 rows, compiled under the best-effort policy, leaves a worked row or
a fault for each of its rows. The worked rows bear increasing numbers, as do the faults; no number
is that of a row and of a fault, and all of them together are the numbers from one to the number
of rows. -/
theorem rows_counted_once (sections : List Section)
    (few : (sections.map Section.rowCount).sum < 2 ^ 32) :
    ∃ B, compileSections .bestEffort sections = .ok B ∧
      B.rows.length + B.faults.length = (sections.map Section.rowCount).sum ∧
      (B.rows.map fun r => r.number.toNat).Pairwise (· < ·) ∧
      (B.faults.map fun x => x.place.row.toNat).Pairwise (· < ·) ∧
      (B.rows.map fun r => r.number.toNat).Disjoint (B.faults.map fun x => x.place.row.toNat) ∧
      ∀ k, (k ∈ B.rows.map fun r => r.number.toNat) ∨
          (k ∈ B.faults.map fun x => x.place.row.toNat) ↔
        1 ≤ k ∧ k ≤ (sections.map Section.rowCount).sum := by
  rw [← Section.length_unrolledAll] at few ⊢
  have tallied := Fabric.tallied_addRows Fabric.tallied_empty (Section.unrolledAll sections)
    (by rwa [Nat.zero_add])
  rw [Nat.zero_add] at tallied
  have nodup : (_ ++ _ : List Nat).Nodup := tallied.numbers.nodup_iff.2 (List.nodup_range' ..)
  refine ⟨_, compileSections_bestEffort sections, ?_, tallied.rows, tallied.faults,
    List.disjoint_of_nodup_append nodup, ?_⟩
  · have lengths := tallied.numbers.length_eq
    simpa [Fabric.rowNumbers, Fabric.faultNumbers, Fabric.compilation] using lengths
  · intro k
    have member := tallied.numbers.mem_iff (a := k)
    rw [List.mem_append, List.mem_range'_1] at member
    apply member.trans
    omega

/-- The second row of the block fails each time. Neither a block without rows nor one that is not
worked counts for anything. -/
def gusset : List Section :=
  [⟨"gusset", [.block ⟨[], 7⟩, .row ⟨[.stitch (.castOn 3)], .start⟩,
      .block ⟨[⟨[.times (.stitch .knit) 3], .start⟩, ⟨[.stitch .purl], .start⟩], 2⟩]⟩,
    ⟨"edge", [.block ⟨[⟨[.stitch .knit], .start⟩], 0⟩]⟩]

theorem rows_counted_once_gusset :
    (gusset.map Section.rowCount).sum < 2 ^ 32 ∧
      ∃ B, compileSections .bestEffort gusset = .ok B ∧
        (B.rows.map fun r => r.number.toNat) = [1, 2, 4] ∧
        (B.faults.map fun x => x.place.row.toNat) = [3, 5] ∧
        B.rows.length + B.faults.length = (gusset.map Section.rowCount).sum ∧
        ∀ k, (k ∈ B.rows.map fun r => r.number.toNat) ∨
            (k ∈ B.faults.map fun x => x.place.row.toNat) ↔
          1 ≤ k ∧ k ≤ (gusset.map Section.rowCount).sum := by
  have few : (gusset.map Section.rowCount).sum < 2 ^ 32 := by decide
  obtain ⟨B, compiled, total, -, -, -, numbers⟩ := rows_counted_once gusset few
  have same := Except.ok.inj (compiled.symm.trans (compileSections_bestEffort gusset))
  refine ⟨few, B, compiled, ?_, ?_, total, numbers⟩ <;> rw [same] <;> decide

end Knitting

import Knitting.Proofs.Fabric.Joined
import Knitting.Proofs.Fabric.Rows
import Knitting.Proofs.Row.Markers
import Knitting.Proofs.Row.Renumbered
import Mathlib.Algebra.Group.Nat.Defs

/-! # Rows that survive

A row with a fault leaves no trace but its number: without it, the other rows are worked just the
same, under the numbers that they then have.
-/
namespace Knitting

/-- The number of a row, counted from one by its position among the rows. -/
def position (rows : List StitchRow) (number : UInt32) : UInt32 :=
  .ofNat (rows.findIdx (·.number = number) + 1)

theorem position_append_of_mem {rows : List StitchRow} {number : UInt32}
    (h : ∃ row ∈ rows, row.number = number) (more : List StitchRow) :
    position (rows ++ more) number = position rows number := by
  have found : rows.findIdx (·.number = number) < rows.length :=
    List.findIdx_lt_length_of_exists (by simpa using h)
  rw [position, List.findIdx_append, if_pos found, position]

theorem position_concat_of_new {rows : List StitchRow} {row : StitchRow}
    (h : ∀ other ∈ rows, other.number ≠ row.number) :
    position (rows ++ [row]) row.number = .ofNat (rows.length + 1) := by
  have missing : rows.findIdx (·.number = row.number) = rows.length :=
    List.findIdx_eq_length.2 (by simpa using h)
  rw [position, List.findIdx_append, missing]
  simp

namespace Fabric

/-- The rows that are worked when all of them are added, one after another. -/
def surviving (f : Fabric) : List Row → List Row
  | [] => []
  | r :: rows =>
    match (f.addRow r).2 with
    | none => r :: (f.addRow r).1.surviving rows
    | some _ => (f.addRow r).1.surviving rows

/-- The rows have different numbers, none of them still to come, and each marker is in one of the
rows. -/
structure Numbered (f : Fabric) : Prop where
  begun : ∀ row ∈ f.rows.toList, row.number.toNat ≤ f.attempted.toNat
  nodup : (f.rows.toList.map StitchRow.number).Nodup
  placed : ∀ name p, f.markers.get? name = some p → ∃ row ∈ f.rows.toList, row.number = p.row

theorem numbered_empty : Numbered .empty where
  begun := by simp [empty]
  nodup := by simp [empty]
  placed name p h := by cases h

/-- `g` is `f` with its rows numbered anew, and without its faults. -/
structure Mirrors (f g : Fabric) : Prop where
  rows : g.rows.toList.map StitchRow.stitches = f.rows.toList.map StitchRow.stitches
  markers : g.markers = f.markers.renumber (position f.rows.toList)
  attempted : g.attempted = .ofNat f.rows.size
  clean : g.faults = #[]

theorem mirrors_empty : Mirrors .empty .empty := ⟨rfl, rfl, rfl, rfl⟩

/-- The number of the next row is new. -/
theorem Numbered.new {f : Fabric} (h : f.Numbered) (few : f.attempted.toNat + 1 < 2 ^ 32) :
    ∀ row ∈ f.rows.toList, row.number ≠ f.attempted + 1 := by
  intro row hrow same
  have bound := h.begun row hrow
  rw [same, toNat_attempted few] at bound
  omega

theorem numbered_addRow {f : Fabric} (h : f.Numbered) (few : f.attempted.toNat + 1 < 2 ^ 32)
    (r : Row) : (f.addRow r).1.Numbered := by
  have later : ∀ row ∈ f.rows.toList, row.number.toNat ≤ (f.attempted + 1).toNat := by
    intro row hrow
    rw [toNat_attempted few]
    exact (h.begun row hrow).trans (Nat.le_succ _)
  obtain ⟨done, worked, hadd⟩ | ⟨snag, -, hadd⟩ := f.addRow_cases r
  · have number := number_of_workRow worked
    rw [hadd]
    constructor
    · simp only [Array.toList_push, List.mem_append, List.mem_singleton]
      rintro row (old | rfl)
      · exact later row old
      · rw [number]
    · rw [Array.toList_push, List.map_append, List.map_singleton]
      refine h.nodup.append (List.nodup_singleton _) ?_
      rw [List.disjoint_singleton, number, List.mem_map]
      rintro ⟨row, hrow, same⟩
      exact h.new few row hrow same
    · intro name p hp
      simp only [Array.toList_push, List.mem_append, List.mem_singleton]
      have expanded := (Needle.workRow_eq_ok_iff.1 worked).1
      obtain here | before := Needle.get?_of_expandAll expanded hp
      · exact ⟨done.row, .inr rfl, number.trans here.symm⟩
      · obtain ⟨row, hrow, same⟩ := h.placed name p before
        exact ⟨row, .inl hrow, same⟩
  · rw [hadd]
    exact ⟨later, h.nodup, h.placed⟩

/-- The weight of the last row is told by its stitches. -/
theorem weight_previous (f : Fabric) :
    f.previous.map StitchRow.weight =
      (f.rows.toList.map StitchRow.stitches).getLast?.map
        fun ss => (ss.map Stitch.weight).foldr (· + ·) 0 := by
  rw [previous, ← Array.getLast?_toList, List.getLast?_map, Option.map_map]
  rfl

theorem Mirrors.needle {f g : Fabric} (h : f.Mirrors g) (hf : f.Numbered)
    (few : f.attempted.toNat + 1 < 2 ^ 32) {row : StitchRow} (hrow : row.number = f.attempted + 1) :
    g.needle = f.needle.renumber (position (f.rows.toList ++ [row])) := by
  have number : g.attempted + 1 = position (f.rows.toList ++ [row]) (f.attempted + 1) := by
    rw [← hrow, position_concat_of_new (hrow ▸ hf.new few), h.attempted, UInt32.ofNat_add]
    rfl
  have available : g.previous.map StitchRow.weight = f.previous.map StitchRow.weight := by
    rw [weight_previous, weight_previous, h.rows]
  have markers : g.markers = f.markers.renumber (position (f.rows.toList ++ [row])) := by
    rw [h.markers]
    refine MarkerTable.renumber_congr fun ⟨name, p⟩ he => ?_
    have found := hf.placed name p ((f.markers.mem_entries_iff name p).1 he)
    exact (position_append_of_mem found [row]).symm
  simp only [Fabric.needle, Needle.renumber, number, available, markers]

theorem mirrors_worked {f g : Fabric} (h : f.Mirrors g) (hf : f.Numbered)
    (few : f.attempted.toNat + 1 < 2 ^ 32) {r : Row} (worked : (f.addRow r).2 = none) :
    (g.addRow r).2 = none ∧ (f.addRow r).1.Mirrors (g.addRow r).1 := by
  obtain ⟨done, hdone, hadd⟩ | ⟨snag, -, hadd⟩ := f.addRow_cases r
  · have number := number_of_workRow hdone
    -- the names already speak of the row that is about to come; the markers do not know it yet
    have same := Needle.workRow_renumber (position (f.rows.toList ++ [done.row])) r.content f.needle
    rw [← h.needle hf few number, hdone, Craft.carried] at same
    rw [hadd]
    unfold addRow
    rw [same]
    refine ⟨rfl, ?_, ?_, ?_, h.clean⟩
    · simp [h.rows, Needle.row_renumber]
    · simp [Needle.renumber]
    · simp [h.attempted, UInt32.ofNat_add]
  · rw [hadd] at worked
    cases worked

theorem mirrors_failed {f g : Fabric} (h : f.Mirrors g) {r : Row} {fault : Fault}
    (failed : (f.addRow r).2 = some fault) : (f.addRow r).1.Mirrors g := by
  rw [addRow_of_fault failed]
  exact ⟨h.rows, h.markers, h.attempted, h.clean⟩

/-- The rows that survive, worked under the strict policy, come to a fabric without faults that
mirrors what all rows come to. -/
theorem visit_surviving {f g : Fabric} (h : f.Mirrors g) (hf : f.Numbered) (rows : List Row)
    (few : f.attempted.toNat + rows.length < 2 ^ 32) :
    ∃ k, visit (tryRow .strict) (f.surviving rows) g = .ok k ∧ (f.addRows rows).Mirrors k ∧
      (f.addRows rows).Numbered := by
  induction rows generalizing f g with
  | nil => exact ⟨g, rfl, h, hf⟩
  | cons r rows ih =>
    rw [List.length_cons] at few
    have one : f.attempted.toNat + 1 < 2 ^ 32 := by omega
    have rest : (f.addRow r).1.attempted.toNat + rows.length < 2 ^ 32 := by
      rw [attempted_addRow, toNat_attempted one]
      omega
    have numbered := numbered_addRow hf one r
    rw [surviving]
    cases hr : (f.addRow r).2 with
    | none =>
      obtain ⟨worked, mirrors⟩ := mirrors_worked h hf one hr
      obtain ⟨k, visited, last⟩ := ih mirrors numbered rest
      refine ⟨k, ?_, last⟩
      rw [visit, tryRow_strict, worked]
      exact visited
    | some fault => exact ih (mirrors_failed h hr) numbered rest

end Fabric

/-- A row with a fault leaves no trace but its number. Let a pattern of less than 2^32 rows be
compiled to `B` under the best-effort policy, and let `left` be any pattern that comes to the same
rows without those that failed. Under the strict policy `left` compiles without a fault, to the same
rows of stitches and the same markers in the same columns; the row of a marker is now told by the
position of its row in `B`, counted from one. -/
theorem survivors_compile_alone (sections left : List Section)
    (few : (Section.unrolledAll sections).length < 2 ^ 32)
    (hleft : Section.unrolledAll left =
      Fabric.empty.surviving (Section.unrolledAll sections)) :
    ∃ B S, compileSections .bestEffort sections = .ok B ∧
      compileSections .strict left = .ok S ∧ S.faults = [] ∧
      S.rows.map StitchRow.stitches = B.rows.map StitchRow.stitches ∧
      S.markers = B.markers.renumber (position B.rows) ∧
      (∀ name p, B.markers.get? name = some p → ∃ row ∈ B.rows, row.number = p.row) ∧
      (B.rows.map StitchRow.number).Nodup := by
  obtain ⟨k, visited, mirrors, numbered⟩ :=
    Fabric.visit_surviving Fabric.mirrors_empty Fabric.numbered_empty
      (Section.unrolledAll sections) (by simpa [Fabric.empty] using few)
  refine ⟨_, k.compilation, compileSections_bestEffort sections, ?_, ?_, mirrors.rows,
    mirrors.markers, numbered.placed, numbered.nodup⟩
  · rw [compileSections, Fabric.addSections_eq_visit, hleft, visited]
  · rw [Fabric.compilation, mirrors.clean]

def startRow : Row := ⟨[.marker (.place 'A'), .stitch (.castOn 2)], .start⟩

def evenRow : Row := ⟨[.times (.stitch .knit) 2, .marker (.place 'A')], .start⟩

def widerRow : Row := ⟨[.stitch .knit, .stitch .yarnOver, .stitch .knit], .start⟩

def lastRow : Row := ⟨[.marker (.place 'B'), .times (.stitch .purl) 0], .start⟩

/-- Both rows of the block fail when it comes to them again. -/
def hem : List Section :=
  [⟨"hem", [.row startRow, .block ⟨[evenRow, widerRow], 2⟩, .row lastRow]⟩]

def shorterHem : List Section :=
  [⟨"hem", [.row startRow, .row evenRow, .row widerRow, .row lastRow]⟩]

theorem survivors_compile_alone_hem :
    (Section.unrolledAll hem).length < 2 ^ 32 ∧
      Section.unrolledAll shorterHem = Fabric.empty.surviving (Section.unrolledAll hem) ∧
      ∃ B S, compileSections .bestEffort hem = .ok B ∧
        compileSections .strict shorterHem = .ok S ∧ S.faults = [] ∧
        S.rows.map StitchRow.stitches = B.rows.map StitchRow.stitches ∧
        S.markers = B.markers.renumber (position B.rows) := by
  have few : (Section.unrolledAll hem).length < 2 ^ 32 := by decide
  have left : Section.unrolledAll shorterHem =
      Fabric.empty.surviving (Section.unrolledAll hem) := rfl
  obtain ⟨B, S, hB, hS, clean, rows, markers, -⟩ := survivors_compile_alone hem shorterHem few left
  exact ⟨few, left, B, S, hB, hS, clean, rows, markers⟩

end Knitting

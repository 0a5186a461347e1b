import Knitting.Proofs.Fabric.FirstFault
import Knitting.Proofs.Fabric.Layout
import Knitting.Proofs.Fabric.Reworked
import Knitting.Proofs.Fabric.Tally

/-! # Row numbers past the last word

A row bears the number of the attempt at which it was worked, as a 32-bit word. So the numbers of a
pattern rise from one on as long as it has less than 2^32 rows. The row that comes next begins
again at zero.
-/
namespace Knitting
namespace Fabric

/-- The rows that are worked bear the numbers of their attempts, as far as a word can hold them. -/
theorem rowNumbers_addRows (rows : List Row) {f : Fabric} {n : Nat}
    (start : f.attempted.toNat = n % 2 ^ 32) :
    ∃ ordinals : List Nat, ordinals.Sublist (List.range' (n + 1) rows.length) ∧
      (f.addRows rows).rowNumbers = f.rowNumbers ++ ordinals.map (· % 2 ^ 32) := by
  induction rows generalizing f n with
  | nil => exact ⟨[], .slnil, by simp⟩
  | cons r rows ih =>
    have number : (f.attempted + 1).toNat = (n + 1) % 2 ^ 32 := by
      rw [UInt32.toNat_add, start]
      exact Nat.mod_add_mod ..
    have next : (f.addRow r).1.attempted.toNat = (n + 1) % 2 ^ 32 := by
      rw [attempted_addRow, number]
    rcases ih next with ⟨ordinals, among, numbers⟩
    rw [List.length_cons, List.range'_succ, addRows_cons, numbers]
    rcases f.numbers_addRow r with ⟨worked, -⟩ | ⟨failed, -⟩
    · exact ⟨(n + 1) :: ordinals, among.cons_cons _, by simp [worked, number]⟩
    · exact ⟨ordinals, among.cons _, by rw [failed]⟩

end Fabric

open Fabric

def Compilation.Rising (c : Compilation) : Prop :=
  (0 :: c.rows.map fun r => r.number.toNat).Pairwise (· < ·)

/-- Sections that compile have all their rows added, under the strict policy without a fault. -/
theorem eq_addRows_of_compileSections {policy : Policy} {sections : List Section} {c : Compilation}
    (h : compileSections policy sections = .ok c) :
    c = (Fabric.empty.addRows (Section.unrolledAll sections)).compilation ∧
      (policy = .strict → c.faults = []) := by
  cases policy with
  | bestEffort =>
    rw [compileSections_bestEffort, Except.ok.injEq] at h
    exact ⟨h.symm, nofun⟩
  | strict =>
    rw [compileSections, addSections_eq_visit] at h
    rcases visit_strict_cases (Section.unrolledAll sections) .empty with
      ⟨clean, visited⟩ | ⟨before, bad, after, fault, -, -, -, halted⟩
    · rw [visited] at h
      cases h
      exact ⟨rfl, fun _ => by rw [compilation, clean]; rfl⟩
    · rw [halted] at h
      cases h

/-- The rows of a pattern that compiles bear the numbers of their attempts, and without a fault
every attempt has its row. -/
theorem numbers_of_compileSections {policy : Policy} {sections : List Section} {c : Compilation}
    (h : compileSections policy sections = .ok c) :
    ∃ ordinals : List Nat, ordinals.Sublist (List.range' 1 (sections.map Section.rowCount).sum) ∧
      (c.rows.map fun r => r.number.toNat) = ordinals.map (· % 2 ^ 32) ∧
      (c.faults = [] → ordinals = List.range' 1 (sections.map Section.rowCount).sum) := by
  rw [← Section.length_unrolledAll]
  rcases eq_addRows_of_compileSections h with ⟨rfl, -⟩
  rcases rowNumbers_addRows (Section.unrolledAll sections) (f := .empty) (n := 0) rfl with
    ⟨ordinals, among, numbers⟩
  refine ⟨ordinals, among, numbers, ?_⟩
  intro clean
  apply among.eq_of_length
  -- there are as many numbers as rows, and no row has gone to the faults
  have size := size_addRows .empty (Section.unrolledAll sections)
  have none : (Fabric.empty.addRows (Section.unrolledAll sections)).faults.size = 0 := by
    simpa [compilation] using clean
  have lengths := congrArg List.length numbers
  simp only [rowNumbers, List.length_map, List.length_append, Array.length_toList] at lengths
  rw [List.length_range', ← Nat.zero_add (List.length (Section.unrolledAll sections))]
  have begin : Fabric.empty.rows.size + Fabric.empty.faults.size = 0 := rfl
  have rows : Fabric.empty.rows.size = 0 := rfl
  omega

/-- Numbers of fewer than 2^32 attempts rise. -/
theorem rising_of_few {c : Compilation} {ordinals : List Nat} {total : Nat}
    (among : ordinals.Sublist (List.range' 1 total))
    (numbers : (c.rows.map fun r => r.number.toNat) = ordinals.map (· % 2 ^ 32))
    (few : total < 2 ^ 32) : c.Rising := by
  have small : ∀ k ∈ ordinals, k % 2 ^ 32 = id k := by
    intro k hk
    have bounds := List.mem_range'_1.1 (among.subset hk)
    apply Nat.mod_eq_of_lt
    omega
  have all : (0 :: List.range' 1 total).Pairwise (· < ·) := by
    apply List.pairwise_cons.2
    exact ⟨fun k hk => (List.mem_range'_1.1 hk).1, List.pairwise_lt_range'⟩
  rw [Compilation.Rising, numbers, List.map_congr_left small, List.map_id]
  exact all.sublist (among.cons_cons 0)

/-- The row of attempt 2^32 bears the number zero. -/
theorem not_rising_of_many {c : Compilation} {total : Nat}
    (numbers : (c.rows.map fun r => r.number.toNat) = (List.range' 1 total).map (· % 2 ^ 32))
    (many : 2 ^ 32 ≤ total) : ¬c.Rising := by
  intro rising
  have zero : 0 ∈ (List.range' 1 total).map (· % 2 ^ 32) := by
    apply List.mem_map.2
    exact ⟨2 ^ 32, List.mem_range'_1.2 (by omega), Nat.mod_self _⟩
  rw [Compilation.Rising, numbers] at rising
  exact absurd ((List.pairwise_cons.1 rising).1 0 zero) (Nat.lt_irrefl 0)

/-- A row of a pattern that compiles bears the number of its attempt, reduced to 32 bits. The
numbers rise from one on if the pattern has less than 2^32 rows. Under the strict policy, where
every attempt has its row, they rise in no other case. -/
theorem row_numbers_are_ordinals (policy : Policy) (source : String) (c : Compilation)
    (compiled : compile policy source = .ok c) :
    ∃ sections, parse source = .ok sections ∧ ∃ ordinals : List Nat,
      ordinals.Sublist (List.range' 1 (sections.map Section.rowCount).sum) ∧
      (c.rows.map fun r => r.number.toNat) = ordinals.map (· % 2 ^ 32) ∧
      ((sections.map Section.rowCount).sum < 2 ^ 32 → c.Rising) ∧
      (policy = .strict → ordinals = List.range' 1 (sections.map Section.rowCount).sum ∧
        (c.Rising ↔ (sections.map Section.rowCount).sum < 2 ^ 32)) := by
  rcases compile_eq_ok_iff.1 compiled with ⟨sections, read, worked⟩
  rcases numbers_of_compileSections worked with ⟨ordinals, among, numbers, clean⟩
  refine ⟨sections, read, ordinals, among, numbers, rising_of_few among numbers, ?_⟩
  intro strict
  have all := clean ((eq_addRows_of_compileSections worked).2 strict)
  refine ⟨all, fun rising => ?_, rising_of_few among numbers⟩
  by_contra many
  rw [all] at numbers
  exact not_rising_of_many numbers (Nat.le_of_not_lt many) rising

/-- The second of three rows fails. -/
def ledgeText : String := "section s \x7b co2; k3; k2; \x7d"

theorem row_numbers_are_ordinals_ledge :
    ∃ c, compile .bestEffort ledgeText = .ok c ∧
      (c.rows.map fun r => r.number.toNat) = [1, 3] ∧ c.Rising := by
  have lexemes : LexemeStream.ofSource ledgeText =
      ⟨[⟨⟨1, 1⟩, .sectionWord, "section"⟩, ⟨⟨1, 9⟩, .identifier, "s"⟩,
        ⟨⟨1, 11⟩, .blockOpen, "\x7b"⟩, ⟨⟨1, 13⟩, .castOn, "2"⟩, ⟨⟨1, 16⟩, .rowEnd, ";"⟩,
        ⟨⟨2, 2⟩, .knitRun, "3"⟩, ⟨⟨2, 4⟩, .rowEnd, ";"⟩, ⟨⟨3, 2⟩, .knitRun, "2"⟩,
        ⟨⟨3, 4⟩, .rowEnd, ";"⟩, ⟨⟨4, 2⟩, .blockClose, "\x7d"⟩], ⟨4, 3⟩⟩ := by decide +kernel
  have read : parse ledgeText = .ok [⟨"s", [.row ⟨[.stitch (.castOn 2)], ⟨1, 13⟩⟩,
      .row ⟨[.times (.stitch .knit) 3], ⟨2, 2⟩⟩, .row ⟨[.times (.stitch .knit) 2], ⟨3, 2⟩⟩]⟩] := by
    rw [parse, lexemes]
    rfl
  have compiled := compile_bestEffort read
  rcases row_numbers_are_ordinals .bestEffort ledgeText _ compiled with
    ⟨sections, same, ordinals, -, -, rising, -⟩
  cases read.symm.trans same
  exact ⟨_, compiled, by decide, rising (by decide)⟩

/-- A row without stitches, and rows of one cable of none, as often as 32 bits can say. -/
def threads (count : UInt32) : List Section :=
  let cable : List Expr := [.stitch (.cable .knitForward 0 0)]
  [⟨"s", [.row ⟨cable, ⟨1, 13⟩⟩, .block ⟨[⟨[.group []], ⟨2, 22⟩⟩], count⟩,
    .row ⟨cable, ⟨3, 4⟩⟩, .row ⟨cable, ⟨4, 2⟩⟩]⟩]

/-- A row that comes down to stitches without any weight or advance. -/
def Row.Light (r : Row) : Prop :=
  Expr.countedAll r.content ∧ ∃ ss : List Stitch, Expr.writtenAll r.content = ss.map .work ∧
    ss.length ≤ rowLimit ∧ Stitch.totalAdvance ss = 0 ∧ ∀ n, StitchRow.weight ⟨n, ss⟩ = 0

/-- Light rows are worked however many there are. -/
theorem visit_light {rows : List Row} (light : ∀ r ∈ rows, r.Light) {f : Fabric}
    (last : ∀ below, f.previous = some below → below.weight = 0) :
    visit (tryRow .strict) rows f = .ok (f.addRows rows) := by
  induction rows generalizing f with
  | nil => rfl
  | cons r rows ih =>
    rw [List.forall_mem_cons] at light
    rcases light.1 with ⟨counted, ss, actions, short, advance, weight⟩
    have worked := addRow_stitches counted actions short fun below hbelow => by
      rw [advance, last below hbelow]
    rw [visit, tryRow_strict, worked.1, addRows_cons]
    apply ih light.2
    intro below hbelow
    rw [previous, worked.2, Array.back?_push, Option.some.injEq] at hbelow
    rw [← hbelow, weight]

theorem compileSections_threads (count : UInt32) :
    ∃ c, compileSections .strict (threads count) = .ok c := by
  have cable (p : Position) : Row.Light ⟨[.stitch (.cable .knitForward 0 0)], p⟩ :=
    ⟨rfl, [.cable .knitForward 0 0], rfl, by decide, rfl, fun _ => rfl⟩
  have empty (p : Position) : Row.Light ⟨[.group []], p⟩ :=
    ⟨rfl, [], rfl, by decide, rfl, fun _ => rfl⟩
  have light : ∀ r ∈ Section.unrolledAll (threads count), r.Light := by
    intro r hr
    simp only [threads, Section.unrolledAll, Section.unrolled, Item.unrolled, Block.unrolled,
      List.flatMap_cons, List.flatMap_nil, List.append_nil, List.mem_append, List.mem_singleton,
      List.mem_flatten, List.mem_replicate] at hr
    rcases hr with rfl | ⟨_, ⟨-, rfl⟩, hr⟩ | rfl | rfl
    · exact cable _
    · rw [List.mem_singleton.1 hr]
      exact empty _
    · exact cable _
    · exact cable _
  rw [compileSections, addSections_eq_visit,
    visit_light light (f := .empty) fun _ below => (Option.some_ne_none _ below.symm).elim]
  exact ⟨_, rfl⟩

theorem rowCount_threads (count : UInt32) :
    ((threads count).map Section.rowCount).sum = count.toNat + 3 := by
  simp only [threads, List.map_cons, List.map_nil, List.sum_cons, List.sum_nil, Section.rowCount,
    Item.rowCount, List.foldr_cons, List.foldr_nil, List.length_singleton]
  omega

/-- The row behind number 4294967295 has the number zero: this pattern is read, every one of its
2^32 rows is worked, and the numbers do not rise. -/
theorem row_numbers_begin_again :
    ∃ c, parse "section s \x7b c0r; repeat 4294967293 \x7b (); \x7d c0r; c0r; \x7d" =
        .ok (threads 4294967293) ∧
      compile .strict "section s \x7b c0r; repeat 4294967293 \x7b (); \x7d c0r; c0r; \x7d" =
        .ok c ∧
      (c.rows.map fun r => r.number.toNat) = (List.range' 1 (2 ^ 32)).map (· % 2 ^ 32) ∧
      ¬c.Rising := by
  have lexemes : LexemeStream.ofSource
      "section s \x7b c0r; repeat 4294967293 \x7b (); \x7d c0r; c0r; \x7d" =
      ⟨[⟨⟨1, 1⟩, .sectionWord, "section"⟩, ⟨⟨1, 9⟩, .identifier, "s"⟩,
        ⟨⟨1, 11⟩, .blockOpen, "\x7b"⟩, ⟨⟨1, 13⟩, .cable .knitForward, "0,0"⟩,
        ⟨⟨1, 16⟩, .rowEnd, ";"⟩, ⟨⟨2, 2⟩, .repeatWord, "repeat"⟩,
        ⟨⟨2, 9⟩, .integer, "4294967293"⟩, ⟨⟨2, 20⟩, .blockOpen, "\x7b"⟩,
        ⟨⟨2, 22⟩, .groupOpen, "("⟩, ⟨⟨2, 23⟩, .groupClose, ")"⟩, ⟨⟨2, 24⟩, .rowEnd, ";"⟩,
        ⟨⟨3, 2⟩, .blockClose, "\x7d"⟩, ⟨⟨3, 4⟩, .cable .knitForward, "0,0"⟩,
        ⟨⟨3, 7⟩, .rowEnd, ";"⟩, ⟨⟨4, 2⟩, .cable .knitForward, "0,0"⟩,
        ⟨⟨4, 5⟩, .rowEnd, ";"⟩, ⟨⟨5, 2⟩, .blockClose, "\x7d"⟩], ⟨5, 3⟩⟩ := by decide +kernel
  have read : parse "section s \x7b c0r; repeat 4294967293 \x7b (); \x7d c0r; c0r; \x7d" =
      .ok (threads 4294967293) := by
    rw [parse, lexemes]
    rfl
  rcases compileSections_threads 4294967293 with ⟨c, worked⟩
  have total : ((threads 4294967293).map Section.rowCount).sum = 2 ^ 32 := rowCount_threads _
  rcases numbers_of_compileSections worked with ⟨ordinals, -, numbers, all⟩
  rw [all ((eq_addRows_of_compileSections worked).2 rfl), total] at numbers
  exact ⟨c, read, compile_eq_ok_iff.2 ⟨_, read, worked⟩, numbers, not_rising_of_many numbers le_rfl⟩

end Knitting

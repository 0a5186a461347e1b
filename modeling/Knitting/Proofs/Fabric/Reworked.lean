import Knitting.Proofs.Fabric.Joined
import Knitting.Proofs.Fabric.Rows
import Knitting.Proofs.Fabric.Verdict
import Mathlib.Data.List.Chain

/-! # Rows worked again from their stitches

A worked row can be written down again, one stitch after another. Worked in their order, such rows
come to the same stitches: each meets the one before it, as the rows did that they are taken from,
and so each of its stitches fits.
-/
namespace Knitting

def StitchRow.plain (r : StitchRow) : Row := ⟨r.stitches.map .stitch, .start⟩

def Compilation.plain (C : Compilation) : Section := ⟨"", C.rows.map fun r => .row r.plain⟩

theorem Compilation.unrolledAll_plain (C : Compilation) :
    Section.unrolledAll [C.plain] = C.rows.map StitchRow.plain := by
  simp only [Section.unrolledAll, Section.unrolled, plain, List.flatMap_singleton,
    List.flatMap_map, Item.unrolled]
  exact List.map_eq_flatMap.symm

namespace Expr

variable (ss : List Stitch)

theorem countedAll_stitches : countedAll (ss.map .stitch) = true := by
  induction ss with
  | nil => rfl
  | cons s ss ih => simpa [countedAll, counted] using ih

theorem writtenAll_stitches : writtenAll (ss.map .stitch) = ss.map .work := by
  induction ss with
  | nil => rfl
  | cons s ss ih => simp [writtenAll, written, ih]

end Expr

namespace Fabric

/-- A row that comes down to stitches, not too many and as many as the row below has for it, is
worked. -/
theorem addRow_stitches {f : Fabric} {r : Row} {ss : List Stitch}
    (counted : Expr.countedAll r.content) (actions : Expr.writtenAll r.content = ss.map .work)
    (short : ss.length ≤ rowLimit)
    (meets : ∀ below, f.previous = some below → Stitch.totalAdvance ss = below.weight) :
    (f.addRow r).2 = none ∧ (f.addRow r).1.rows = f.rows.push ⟨f.attempted + 1, ss⟩ := by
  have clear : f.Clear (Expr.writtenAll r.content) := by
    rw [actions]
    apply clear_of_totals
    · rwa [Action.stitches_map_work]
    · intro before name after split
      have mark : Action.mark (.remove name) ∈ ss.map Action.work := by simp [split]
      simp at mark
    · intro below hbelow
      rw [Action.stitches_map_work]
      exact (meets below hbelow).le
  obtain ⟨verdict, rows⟩ := addRow_of_clear counted clear
  have whole : f.mismatch? (Expr.writtenAll r.content) = none := by
    rw [mismatch?_eq_none_iff, actions, Action.stitches_map_work]
    exact meets
  rw [verdict, rows whole, whole, actions, Action.stitches_map_work]
  exact ⟨rfl, rfl⟩

/-- Rows of stitches that meet one another, and the last row of a fabric, are worked on top of it
as they stand. -/
theorem visit_stitches {rows : List StitchRow} {again : List Row} {f : Fabric}
    (content : again.map Row.content = rows.map fun r => r.stitches.map .stitch)
    (short : ∀ r ∈ rows, r.stitches.length ≤ rowLimit)
    (meet : rows.IsChain fun r next => next.advance = r.weight)
    (first : ∀ below, f.previous = some below → ∀ r ∈ rows.head?, r.advance = below.weight) :
    ∃ g, visit (tryRow .strict) again f = .ok g ∧ g.faults = f.faults ∧
      g.rows.toList.map StitchRow.stitches =
        f.rows.toList.map StitchRow.stitches ++ rows.map StitchRow.stitches := by
  induction rows generalizing again f with
  | nil =>
    rw [List.map_nil, List.map_eq_nil_iff] at content
    subst content
    exact ⟨f, rfl, rfl, by simp⟩
  | cons r rows ih =>
    obtain ⟨row, later, rfl, here, behind⟩ := List.map_eq_cons_iff.1 content
    rw [List.forall_mem_cons] at short
    rw [List.isChain_cons] at meet
    have counted : Expr.countedAll row.content = true := here ▸ Expr.countedAll_stitches _
    have actions : Expr.writtenAll row.content = r.stitches.map .work :=
      here ▸ Expr.writtenAll_stitches _
    obtain ⟨worked, pushed⟩ :=
      addRow_stitches counted actions short.1 fun below hbelow => first below hbelow r rfl
    have next : ∀ below, (f.addRow row).1.previous = some below →
        ∀ s ∈ rows.head?, s.advance = below.weight := by
      intro below hbelow s hs
      rw [previous, pushed, Array.back?_push, Option.some.injEq] at hbelow
      subst hbelow
      exact meet.1 s hs
    obtain ⟨g, visited, clean, stitches⟩ := ih behind short.2 meet.2 next
    refine ⟨g, ?_, ?_, ?_⟩
    · rw [visit, tryRow_strict, worked]
      exact visited
    · rw [clean, faults_addRow_of_worked worked]
    · rw [stitches, pushed]
      simp

theorem Joined.isChain {f : Fabric} (h : f.Joined) :
    f.rows.toList.IsChain fun r next => next.advance = r.weight := by
  apply List.isChain_iff_getElem.2
  intro i hi
  exact h.meet i (by simpa using hi)

theorem joined_of_addSections {policy : Policy} {sections : List Section} {f : Fabric}
    (h : Fabric.empty.addSections policy sections = .ok f) : f.Joined := by
  have joined := call_keeps joined_addRow policy (.pattern sections) joined_empty
  rwa [call, h] at joined

end Fabric

/-- Worked rows are worked again as they are. Whenever a pattern compiles, under either policy,
let `plain` be any pattern whose rows are the compiled rows in their order, each written as its
single stitches and without markers. Under the strict policy `plain` compiles without a fault to the
same stitches, row by row. -/
theorem compiled_rows_compile_again (policy : Policy) (sections plain : List Section)
    (C : Compilation) (compiled : compileSections policy sections = .ok C)
    (written : (Section.unrolledAll plain).map Row.content =
      C.rows.map fun r => r.stitches.map .stitch) :
    ∃ S, compileSections .strict plain = .ok S ∧ S.faults = [] ∧
      S.rows.map StitchRow.stitches = C.rows.map StitchRow.stitches := by
  rw [compileSections] at compiled
  cases hf : Fabric.empty.addSections policy sections with
  | error halt =>
    rw [hf] at compiled
    cases compiled
  | ok f =>
    rw [hf] at compiled
    cases compiled
    have joined := Fabric.joined_of_addSections hf
    obtain ⟨g, visited, clean, stitches⟩ := Fabric.visit_stitches (f := .empty) written
      (fun r hr => joined.short r (by simpa [Fabric.compilation] using hr)) joined.isChain
      (by simp [Fabric.previous, Fabric.empty])
    refine ⟨g.compilation, ?_, ?_, stitches⟩
    · rw [compileSections, Fabric.addSections_eq_visit, visited]
    · rw [Fabric.compilation, clean]
      rfl

/-- The decreases fail when they come again: three stitches are left, and they go in pairs. -/
def lace : List Section :=
  [⟨"lace", [.row ⟨[.marker (.place 'A'), .stitch (.castOn 6)], .start⟩,
    .block ⟨[⟨[.times (.group [.stitch .slipSlipKnit, .marker (.place 'B')]) 0], .start⟩,
      ⟨[.stitch .knit, .leaving (.stitch .purl) 1, .stitch .knit], .start⟩], 2⟩]⟩]

theorem compiled_rows_compile_again_lace :
    ∃ C S, compileSections .bestEffort lace = .ok C ∧ C.faults.length = 1 ∧
      C.rows.map StitchRow.stitches = [[.castOn 6], List.replicate 3 .slipSlipKnit,
        [.knit, .purl, .knit], [.knit, .purl, .knit]] ∧
      (Section.unrolledAll [C.plain]).map Row.content =
        (C.rows.map fun r => r.stitches.map .stitch) ∧
      compileSections .strict [C.plain] = .ok S ∧ S.faults = [] ∧
      S.rows.map StitchRow.stitches = C.rows.map StitchRow.stitches := by
  have compiled := compileSections_bestEffort lace
  have written := congrArg (List.map Row.content)
    (Compilation.unrolledAll_plain (Fabric.empty.addRows (Section.unrolledAll lace)).compilation)
  rw [List.map_map] at written
  obtain ⟨S, again⟩ := compiled_rows_compile_again .bestEffort lace _ _ compiled written
  exact ⟨_, S, compiled, by decide, by decide, written, again⟩

end Knitting

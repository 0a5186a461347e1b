import Knitting.Proofs.Fabric.Counter
import Knitting.Proofs.Fabric.Journal

/-! # Repeats that fill the row

A repeat that does not say how often it is worked takes the number of its passes from what is left
of the row below. It asks once, before its first pass. Since every pass of counted content works the
same stitches, it then works just as much as it said, and no stitch of it goes beyond the row below.
-/
namespace Knitting

namespace Action

@[simp] theorem totalAdvance_stitches_replicate (as : List Action) (passes : Nat) :
    Stitch.totalAdvance (stitches (List.replicate passes as).flatten) =
      passes * Stitch.totalAdvance (stitches as) := by
  induction passes with
  | zero => simp
  | succ passes ih =>
    rw [List.replicate_succ, List.flatten_cons, stitches_append, Stitch.totalAdvance_append, ih,
      Nat.succ_mul, Nat.add_comm]

end Action

namespace Expr

theorem totalAdvance_writtenAll {es : List Expr}
    (each : ∀ e ∈ es, Stitch.totalAdvance (Action.stitches e.written) = e.fullAdvance) :
    Stitch.totalAdvance (Action.stitches (writtenAll es)) = fullAdvanceAll es := by
  induction es with
  | nil => rfl
  | cons e es ih =>
    rw [List.forall_mem_cons] at each
    rw [writtenAll, fullAdvanceAll, Action.stitches_append, Stitch.totalAdvance_append, each.1,
      ih each.2]

theorem totalAdvance_written (e : Expr) :
    Stitch.totalAdvance (Action.stitches e.written) = e.fullAdvance := by
  induction e with
  | stitch s => simp [written, fullAdvance]
  | group es ih => exact totalAdvance_writtenAll ih
  | times e count ih =>
    rw [written, fullAdvance, Action.totalAdvance_stitches_replicate, ih, Nat.mul_comm]
  | leaving e count _ => rfl
  | marker a => rfl

end Expr

namespace Needle

variable {n m : Needle} {snag : Snag} {available : Nat}

theorem OnCourse.advance_row (h : n.OnCourse) : n.row.advance = n.worked := by
  have column : n.column = 1 + n.row.advance := h.column
  rw [worked]
  omega

/-- Actions whose stitches the row below has can fail for want of room, or at a marker that is not
there, but not for want of stitches. -/
theorem fault_of_actAll_within {as : List Action} (course : n.OnCourse)
    (below : n.available = some available)
    (fits : n.worked + Stitch.totalAdvance (Action.stitches as) ≤ available)
    (stopped : n.actAll as = .error snag) :
    snag.fault = .rowTooLong snag.needle.place ∨
      ∃ name, snag.fault = .markerNotFound snag.needle.place name := by
  induction as generalizing n with
  | nil => cases stopped
  | cons a as ih =>
    rw [actAll, visit] at stopped
    cases acted : n.act a with
    | error other =>
      rw [acted] at stopped
      cases stopped
      rw [act_error_needle acted]
      cases a with
      | work s =>
        rw [Action.stitches_work, Stitch.totalAdvance_cons] at fits
        rcases work_eq_error acted with ⟨-, tooLong⟩ | ⟨whole, same, beyond, -⟩
        · exact .inl tooLong
        · cases below.symm.trans same
          omega
      | mark a =>
        rcases mark_eq_error acted with ⟨name, -, missing⟩
        exact .inr ⟨name, missing⟩
    | ok next =>
      rw [acted] at stopped
      refine ih (onCourse_of_act acted course) ((extends_of_act acted).available.trans below) ?_
        stopped
      have moved := (row_of_actAll ((actAll_singleton a n).trans acted)).2.1
      have begun := course.column
      rw [← List.singleton_append, Action.stitches_append, Stitch.totalAdvance_append] at fits
      rw [worked] at fits ⊢
      omega

/-- What comes of a number of passes over counted content that the row below has stitches for. -/
theorem replay_expand_within {content : Expr} {passes : Nat} (counted : content.counted)
    (course : n.OnCourse) (below : n.available = some available)
    (fits : n.worked + passes * content.fullAdvance ≤ available) :
    (∀ snag, replay content.expand passes n = .error snag →
      snag.fault = .rowTooLong snag.needle.place ∨
        ∃ name, snag.fault = .markerNotFound snag.needle.place name) ∧
    ∀ m, replay content.expand passes n = .ok m →
      m.row.advance = n.row.advance + passes * content.fullAdvance := by
  have each : content.expand = fun n => n.actAll content.written :=
    funext fun n => content.expand_eq_actAll counted n
  have passed : replay content.expand passes n =
      n.actAll (List.replicate passes content.written).flatten := by
    rw [each]
    exact replay_visit _ content.written passes n
  have total : Stitch.totalAdvance
      (Action.stitches (List.replicate passes content.written).flatten) =
        passes * content.fullAdvance := by
    rw [Action.totalAdvance_stitches_replicate, content.totalAdvance_written]
  rw [passed]
  constructor
  · intro snag stopped
    apply fault_of_actAll_within course below _ stopped
    rwa [total]
  · intro m done
    rcases row_of_actAll done with ⟨-, -, stitches⟩
    have sum := Stitch.totalAdvance_append n.row.stitches
      (Action.stitches (List.replicate passes content.written).flatten)
    rwa [← stitches, total] at sum

/-- As many passes as fit into what is left of the row below, less the stitches that are to be
kept, leave these and less than one pass. -/
theorem replay_expand_filling {content : Expr} (counted : content.counted) (course : n.OnCourse)
    (below : n.available = some available) (kept : Nat)
    (within : n.row.advance + kept ≤ available) :
    (∀ snag, replay content.expand
        ((available - n.row.advance - kept) / content.fullAdvance) n = .error snag →
      snag.fault = .rowTooLong snag.needle.place ∨
        ∃ name, snag.fault = .markerNotFound snag.needle.place name) ∧
    ∀ m, replay content.expand
        ((available - n.row.advance - kept) / content.fullAdvance) n = .ok m →
      m.row.advance + (kept + (available - n.row.advance - kept) % content.fullAdvance) =
        available := by
  have divided := Nat.div_add_mod' (available - n.row.advance - kept) content.fullAdvance
  have fits : n.worked + (available - n.row.advance - kept) / content.fullAdvance *
      content.fullAdvance ≤ available := by
    rw [← course.advance_row]
    omega
  rcases replay_expand_within counted course below fits with ⟨failed, worked⟩
  refine ⟨failed, ?_⟩
  intro m done
  rw [worked m done]
  omega

section Inferred

variable {content : Expr} (course : n.OnCourse) (below : n.available = some available)
  (small : available < Expr.advanceLimit) (moves : 0 < content.fullAdvance)
include course below small moves

theorem expand_times_zero : (Expr.times content 0).expand n =
    replay content.expand ((available - n.row.advance) / content.fullAdvance) n := by
  have advances : content.advance ≠ 0 := mt content.advance_eq_zero_iff.1 (by omega)
  have asked : n.passesOf content 0 = .ok ((available - n.worked) / content.advance) :=
    passesOf_eq_ok_iff.2 (.inr ⟨rfl, available, below, advances, rfl⟩)
  rw [Expr.expand_times, asked]
  dsimp only
  rw [repeatPasses_eq_replay (steady_expand content), Expr.div_advance (by omega),
    course.advance_row]

theorem expand_leaving (count : UInt32) : (Expr.leaving content count).expand n =
    replay content.expand
      ((available - n.row.advance - count.toNat) / content.fullAdvance) n := by
  have advances : content.advance ≠ 0 := mt content.advance_eq_zero_iff.1 (by omega)
  have asked : n.passesLeaving content count =
      .ok ((available - n.worked - count.toNat) / content.advance) :=
    passesLeaving_eq_ok_iff.2 ⟨available, below, advances, rfl⟩
  rw [Expr.expand_leaving, asked]
  dsimp only
  rw [repeatPasses_eq_replay (steady_expand content), Expr.div_advance (by omega),
    course.advance_row]

end Inferred

end Needle

namespace Fabric

/-- Actions in a row of joined rows keep the bounds of the row below. -/
theorem Joined.counted_of_actAll {f : Fabric} {as : List Action} {n : Needle} (h : f.Joined)
    (acted : f.needle.actAll as = .ok n) :
    n.Counted ∧ n.available = f.previous.map StitchRow.weight :=
  Needle.actAll_keeps (P := fun m => m.Counted ∧ m.available = f.previous.map StitchRow.weight)
    (fun _ _ _ acted h => ⟨h.1.act acted, (Needle.extends_of_act acted).available.trans h.2⟩)
    acted ⟨h.counted, rfl⟩

/-- At every point of the work on a row, over a row below, a repeat without a count fills what is
left: its content, counted and of some advance, can fail for want of room or at a marker that is not
there, but never for want of stitches, and when it has been worked there is left what one more pass
would not fit into. A repeat that leaves stitches does so with the rest. If there are fewer stitches
than it should leave, it does nothing. -/
theorem repeats_fill_what_fits (policy : Policy) (calls : List Call) (as : List Action) (n : Needle)
    (acted : (run policy calls).needle.actAll as = .ok n) (below : StitchRow)
    (previous : (run policy calls).previous = some below) (content : Expr)
    (counted : content.counted = true) (moves : 0 < content.fullAdvance) :
    n.row.advance ≤ below.weight ∧
    (∀ snag, (Expr.times content 0).expand n = .error snag →
      snag.fault = .rowTooLong snag.needle.place ∨
        ∃ name, snag.fault = .markerNotFound snag.needle.place name) ∧
    (∀ m, (Expr.times content 0).expand n = .ok m →
      m.row.advance + (below.weight - n.row.advance) % content.fullAdvance = below.weight) ∧
    ∀ count : UInt32,
      (∀ snag, (Expr.leaving content count).expand n = .error snag →
        snag.fault = .rowTooLong snag.needle.place ∨
          ∃ name, snag.fault = .markerNotFound snag.needle.place name) ∧
      (count.toNat ≤ below.weight - n.row.advance →
        ∀ m, (Expr.leaving content count).expand n = .ok m →
          m.row.advance + (count.toNat +
            (below.weight - n.row.advance - count.toNat) % content.fullAdvance) = below.weight) ∧
      (below.weight - n.row.advance < count.toNat →
        (Expr.leaving content count).expand n = .ok n) := by
  have joined : (run policy calls).Joined := run_keeps joined_empty joined_addRow policy calls
  rcases joined.counted_of_actAll acted with ⟨bounds, available⟩
  rw [previous, Option.map_some] at available
  have course := bounds.course
  have small : below.weight < Expr.advanceLimit := by
    have wide := bounds.below below.weight available
    have limit := widest_lt
    omega
  have within : n.row.advance ≤ below.weight := by
    rw [course.advance_row]
    exact course.within below.weight available
  refine ⟨within, ?_⟩
  rw [Needle.expand_times_zero course available small moves]
  have filled := Needle.replay_expand_filling counted course available 0 within
  simp only [Nat.sub_zero, Nat.zero_add] at filled
  refine ⟨filled.1, filled.2, fun count => ?_⟩
  rw [Needle.expand_leaving course available small moves]
  by_cases enough : count.toNat ≤ below.weight - n.row.advance
  · rcases Needle.replay_expand_filling counted course available count.toNat (by omega) with
      ⟨failed, worked⟩
    exact ⟨failed, fun _ => worked, fun short => absurd enough (Nat.not_le.2 short)⟩
  · have none : below.weight - n.row.advance - count.toNat = 0 := by omega
    rw [none, Nat.zero_div]
    exact ⟨nofun, fun ample => absurd ample enough, fun _ => rfl⟩

/-- Eight stitches are cast on. -/
def edging : List Call := [.row ⟨[.stitch (.castOn 8)], .start⟩]

/-- Two stitches are worked and one is made, behind a marker that is taken along. -/
def scallop : Expr :=
  .group [.times (.stitch .knit) 2, .marker (.place 'A'), .stitch .yarnOver]

/-- Behind the first stitch there are seven left. Filled with scallops they are one, and three of
them hold one scallop and one stitch more. -/
theorem repeats_fill_what_fits_edging :
    scallop.counted = true ∧ 0 < scallop.fullAdvance ∧
    ∃ n below, (run .strict edging).needle.actAll [.work .knit] = .ok n ∧
      (run .strict edging).previous = some below ∧ below.weight - n.row.advance = 7 ∧
      (∃ m, (Expr.times scallop 0).expand n = .ok m ∧ m.row.advance + 1 = below.weight) ∧
      (∃ m, (Expr.leaving scallop 4).expand n = .ok m ∧ m.row.advance + 5 = below.weight) ∧
      (Expr.leaving scallop 9).expand n = .ok n := by
  have counted : scallop.counted = true := by decide
  have moves : 0 < scallop.fullAdvance := by decide
  obtain ⟨n, acted⟩ : ∃ n, (run .strict edging).needle.actAll [.work .knit] = .ok n := ⟨_, rfl⟩
  obtain ⟨below, previous⟩ : ∃ below, (run .strict edging).previous = some below := ⟨_, rfl⟩
  obtain ⟨-, -, filled, left⟩ :=
    repeats_fill_what_fits .strict edging _ n acted below previous scallop counted moves
  cases acted
  cases previous
  exact ⟨counted, moves, _, _, rfl, rfl, rfl, ⟨_, rfl, filled _ rfl⟩,
    ⟨_, rfl, (left 4).2.1 (by decide) _ rfl⟩, (left 9).2.2 (by decide)⟩

end Fabric
end Knitting

import Knitting.Proofs.Fabric.Filled

/-! # Advances told beforehand

The advance of an expression is told before any of it is worked. Working it moves the cursor by just
that much, and by no less where it holds repeats without a count, which are told to move it nowhere.
A told advance stops at a limit, but what has been worked lies within the row below, far from there.
-/
namespace Knitting
namespace Needle

variable {n m : Needle}

theorem column_le_of_expand {e : Expr} (h : e.expand n = .ok m) : n.column ≤ m.column := by
  obtain ⟨added, -, column⟩ := (extends_of_expand h).stitches
  omega

/-- Passes of which each moves the cursor at least so far move it as far as all of them. -/
theorem column_le_of_replay {pass : Needle → Except Snag Needle} {least : Nat}
    (each : ∀ n m : Needle, pass n = .ok m → n.column + least ≤ m.column) {passes : Nat}
    (h : replay pass passes n = .ok m) : n.column + passes * least ≤ m.column := by
  induction passes generalizing n with
  | zero =>
    cases h
    omega
  | succ passes ih =>
    rw [replay] at h
    cases made : pass n with
    | error snag =>
      rw [made] at h
      cases h
    | ok next =>
      rw [made] at h
      have first := each n next made
      have later := ih h
      rw [Nat.succ_mul]
      omega

theorem fullAdvanceAll_le_of_expandAll {es : List Expr}
    (each : ∀ e ∈ es, ∀ n m : Needle, e.expand n = .ok m → n.column + e.fullAdvance ≤ m.column)
    (h : Expr.expandAll es n = .ok m) : n.column + Expr.fullAdvanceAll es ≤ m.column := by
  induction es generalizing n with
  | nil =>
    cases h
    exact Nat.le_refl _
  | cons e es ih =>
    rw [List.forall_mem_cons] at each
    rw [Expr.expandAll_cons] at h
    cases made : e.expand n with
    | error snag =>
      rw [made] at h
      cases h
    | ok next =>
      rw [made] at h
      have first := each.1 n next made
      have later := ih each.2 h
      rw [Expr.fullAdvanceAll]
      omega

/-- Whatever the repeats in it find left, an expression moves the cursor by its advance at least. -/
theorem fullAdvance_le_of_expand (e : Expr) (h : e.expand n = .ok m) :
    n.column + e.fullAdvance ≤ m.column := by
  induction e generalizing n m with
  | stitch s =>
    obtain ⟨-, rfl⟩ := work_eq_ok_iff.1 h
    exact Nat.le_refl _
  | group es ih => exact fullAdvanceAll_le_of_expandAll (fun e he _ _ => ih e he) h
  | times e count ih =>
    have forward := column_le_of_expand h
    rw [Expr.expand_times] at h
    cases asked : n.passesOf e count with
    | error snag =>
      rw [asked] at h
      cases h
    | ok passes =>
      rw [asked] at h
      dsimp only at h
      rw [repeatPasses_eq_replay (steady_expand e)] at h
      rw [Expr.fullAdvance]
      rcases passesOf_eq_ok_iff.1 asked with ⟨-, rfl⟩ | ⟨rfl, -⟩
      · rw [Nat.mul_comm]
        exact column_le_of_replay (fun _ _ => ih) h
      · -- a count that was found: nothing was told of it
        simpa using forward
  | leaving e count _ => exact column_le_of_expand h
  | marker a => exact column_le_of_expand (e := .marker a) h

/-- A counted expression moves the cursor by its advance. -/
theorem column_of_expand_counted {e : Expr} (counted : e.counted = true)
    (h : e.expand n = .ok m) : m.column = n.column + e.fullAdvance := by
  rw [e.expand_eq_actAll counted] at h
  rw [(row_of_actAll h).2.1, e.totalAdvance_written]

end Needle

namespace Fabric

/-- Where the counter can be in a row to come, a needle can be, and the counter stands there. -/
theorem exists_needle_of_counter {policy : Policy} {calls : List Call} {as : List Action}
    {c : Counter} (acted : (run64 policy calls).counter.actAll as = .ok c) :
    ∃ n, (run policy calls).needle.actAll as = .ok n ∧ n.Counted ∧ c = .ofNeedle n := by
  have joined : (run policy calls).Joined := run_keeps joined_empty joined_addRow policy calls
  rw [run64_eq, counter_eq_ofNeedle, Counter.actAll_ofNeedle joined.counted] at acted
  cases reached : (run policy calls).needle.actAll as with
  | error snag =>
    rw [reached] at acted
    cases acted
  | ok n =>
    rw [reached] at acted
    cases acted
    exact ⟨n, rfl, (joined.counted_of_actAll reached).1, rfl⟩

/-- The advance that is told of an expression is the one it makes. It is told as the smaller of its
full advance and the largest 64-bit word, whether it is added up in such words or in numbers without
a bound. At every point of the work on a row, for the needle and for the counter, an expression that
is worked to its end moves the cursor by its full advance if every repeat in it has a count, and by
no less otherwise. -/
theorem advance_told_is_made (policy : Policy) (calls : List Call) (e : Expr) :
    e.advance = min (2 ^ 64 - 1) e.fullAdvance ∧
    e.advance64.toNat = min (2 ^ 64 - 1) e.fullAdvance ∧
    (∀ as n m, (run policy calls).needle.actAll as = .ok n → e.expand n = .ok m →
      n.column + e.fullAdvance ≤ m.column ∧
      (e.counted = true → m.column = n.column + e.fullAdvance)) ∧
    ∀ as c d, (run64 policy calls).counter.actAll as = .ok c → Counter.expand e c = .ok d →
      c.column.toNat + e.fullAdvance ≤ d.column.toNat ∧
      (e.counted = true → d.column.toNat = c.column.toNat + e.fullAdvance) := by
  have told : e.advance = min (2 ^ 64 - 1) e.fullAdvance := by
    rw [e.advance_eq_saturate, Nat.min_comm]
    rfl
  have made : ∀ n m : Needle, e.expand n = .ok m → n.column + e.fullAdvance ≤ m.column ∧
      (e.counted = true → m.column = n.column + e.fullAdvance) := fun n m worked =>
    ⟨Needle.fullAdvance_le_of_expand e worked,
      fun counted => Needle.column_of_expand_counted counted worked⟩
  refine ⟨told, ?_, fun as n m _ => made n m, ?_⟩
  · rw [e.toNat_advance64, told]
  · intro as c d acted worked
    obtain ⟨n, -, here, rfl⟩ := exists_needle_of_counter acted
    rw [Counter.expand_ofNeedle here] at worked
    cases expanded : e.expand n with
    | error snag =>
      rw [expanded] at worked
      cases worked
    | ok m =>
      rw [expanded] at worked
      cases worked
      rw [Counter.toNat_column here, Counter.toNat_column (here.expand expanded)]
      exact made n m expanded

/-- Behind the first of eight stitches, three scallops move the cursor by six stitches. A scallop
and as many more as fit move it by six as well, where two were told. -/
theorem advance_told_is_made_edging :
    (∃ n m, (run .strict edging).needle.actAll [.work .knit] = .ok n ∧ n.column = 2 ∧
      (Expr.times scallop 3).expand n = .ok m ∧ m.column = n.column + 6) ∧
    (∃ c d, (run64 .strict edging).counter.actAll [.work .knit] = .ok c ∧
      Counter.expand (.group [scallop, .times scallop 0]) c = .ok d ∧
      c.column.toNat + 2 ≤ d.column.toNat ∧ d.column = 8) ∧
    endless.advance64.toNat = 2 ^ 64 - 1 := by
  refine ⟨?_, ?_, ?_⟩
  · obtain ⟨n, acted⟩ : ∃ n, (run .strict edging).needle.actAll [.work .knit] = .ok n := ⟨_, rfl⟩
    obtain ⟨m, worked⟩ : ∃ m, (Expr.times scallop 3).expand n = .ok m := by
      cases acted
      exact ⟨_, rfl⟩
    have made := (advance_told_is_made .strict edging (.times scallop 3)).2.2.1 _ n m acted worked
    have moved := made.2 (by decide)
    refine ⟨n, m, acted, ?_, worked, moved⟩
    cases acted
    rfl
  · obtain ⟨c, acted⟩ : ∃ c, (run64 .strict edging).counter.actAll [.work .knit] = .ok c :=
      ⟨_, rfl⟩
    obtain ⟨d, worked⟩ : ∃ d, Counter.expand (.group [scallop, .times scallop 0]) c = .ok d := by
      cases acted
      exact ⟨_, rfl⟩
    have made := (advance_told_is_made .strict edging (.group [scallop, .times scallop 0])).2.2.2
      _ c d acted worked
    refine ⟨c, d, acted, worked, made.1, ?_⟩
    cases acted
    cases worked
    rfl
  · rw [(advance_told_is_made .strict edging endless).2.1]
    decide

end Fabric
end Knitting

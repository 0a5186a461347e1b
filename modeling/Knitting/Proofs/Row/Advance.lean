import Knitting.Proofs.Row.Progress
import Mathlib.Algebra.Group.Nat.Defs

/-! # Advances beyond the limit

The advance of an expression is told up to a limit, and the limit is far beyond all that a row can
leave on the needle. So whether there is an advance at all, and how often it fits into a row, is
told as if there were no limit.
-/
namespace Knitting

theorem sum_le_of_forall_le {α : Type} {g : α → Nat} {bound : Nat} (h : ∀ a, g a ≤ bound)
    (as : List α) : (as.map g).foldr (· + ·) 0 ≤ as.length * bound := by
  induction as with
  | nil => exact Nat.zero_le _
  | cons a as ih =>
    have here := h a
    rw [List.map_cons, List.foldr_cons, List.length_cons, Nat.succ_mul]
    omega

theorem Stitch.totalAdvance_le (ss : List Stitch) : totalAdvance ss ≤ ss.length * 2 ^ 33 :=
  sum_le_of_forall_le (fun s => Nat.le_of_lt s.advance_lt) ss

theorem StitchRow.weight_le (r : StitchRow) : r.weight ≤ r.stitches.length * 2 ^ 33 :=
  sum_le_of_forall_le (fun s => Nat.le_of_lt s.weight_lt) r.stitches

namespace Expr

mutual

/-- Advance of one expansion, whatever it comes to. A repeat whose count depends on the previous row
counts nothing. -/
def fullAdvance : Expr → Nat
  | .stitch s => s.advance
  | .group es => fullAdvanceAll es
  | .times e n => e.fullAdvance * n.toNat
  | .leaving _ _ => 0
  | .marker _ => 0

def fullAdvanceAll : List Expr → Nat
  | [] => 0
  | e :: es => e.fullAdvance + fullAdvanceAll es

end

theorem saturate_le (n : Nat) : saturate n ≤ advanceLimit := Nat.min_le_right n advanceLimit

theorem saturate_of_le {n : Nat} (h : n ≤ advanceLimit) : saturate n = n := Nat.min_eq_left h

theorem saturate_add (a b : Nat) : saturate (saturate a + saturate b) = saturate (a + b) := by
  simp only [saturate]
  omega

theorem saturate_mul (a n : Nat) : saturate (saturate a * n) = saturate (a * n) := by
  rcases Nat.eq_zero_or_pos n with rfl | some
  · rw [Nat.mul_zero, Nat.mul_zero]
  · by_cases small : a ≤ advanceLimit
    · rw [saturate_of_le small]
    · -- both products are beyond the limit
      have least : advanceLimit ≤ advanceLimit * n := Nat.le_mul_of_pos_right _ some
      have more : a ≤ a * n := Nat.le_mul_of_pos_right _ some
      have full : saturate a = advanceLimit := Nat.min_eq_right (by omega)
      rw [full, saturate, saturate, Nat.min_eq_right least, Nat.min_eq_right (by omega)]

theorem advanceAll_eq_saturate {es : List Expr}
    (each : ∀ e ∈ es, e.advance = saturate e.fullAdvance) :
    advanceAll es = saturate (fullAdvanceAll es) := by
  induction es with
  | nil => rfl
  | cons e es ih =>
    rw [List.forall_mem_cons] at each
    rw [advanceAll, fullAdvanceAll, each.1, ih each.2, saturate_add]

theorem advance_eq_saturate (e : Expr) : e.advance = saturate e.fullAdvance := by
  induction e with
  | stitch s =>
    have small : s.advance ≤ advanceLimit := Nat.le_trans (Nat.le_of_lt s.advance_lt) (by decide)
    rw [advance, fullAdvance, saturate_of_le small]
  | group es ih => rw [advance, fullAdvance, advanceAll_eq_saturate ih]
  | times e count ih => rw [advance, fullAdvance, ih, saturate_mul]
  | leaving e count _ => rfl
  | marker action => rfl

theorem advance_eq_zero_iff (e : Expr) : e.advance = 0 ↔ e.fullAdvance = 0 := by
  have limit : advanceLimit ≠ 0 := by decide
  rw [advance_eq_saturate, saturate]
  omega

/-- What is below the limit is divided by an advance as if that had no limit. -/
theorem div_advance {remaining : Nat} (small : remaining < advanceLimit) (e : Expr) :
    remaining / e.advance = remaining / e.fullAdvance := by
  rw [advance_eq_saturate]
  by_cases within : e.fullAdvance ≤ advanceLimit
  · rw [saturate_of_le within]
  · have full : saturate e.fullAdvance = advanceLimit := Nat.min_eq_right (by omega)
    rw [full, Nat.div_eq_of_lt small, Nat.div_eq_of_lt (by omega)]

end Expr

end Knitting

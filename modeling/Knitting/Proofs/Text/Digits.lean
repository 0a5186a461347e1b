import Knitting.Proofs.Pattern.Spelling
import Knitting.Proofs.Text.Cancel

/-! # Counts in a text

A count in decimal is told from what stands behind it, unless that is a digit too.
-/
namespace Knitting
open Text

theorem toString_string (s : String) : toString s = s := rfl

theorem isDigit_of_mem_digits {n : UInt32} {c : Char} (h : c ∈ digits n) : c.isDigit = true :=
  List.all_eq_true.1 (isDigitRun_digits n).2 c h

theorem digits_injective {m n : UInt32} (h : digits m = digits n) : m = n := by
  have value := congrArg decimalValue h
  rw [decimalValue_digits, decimalValue_digits] at value
  exact UInt32.toNat_inj.1 value

theorem digits_cancel {m n : UInt32} {r r' : List Char} (hr : NotFirst Char.isDigit r)
    (hr' : NotFirst Char.isDigit r') (same : digits m ++ r = digits n ++ r') : m = n ∧ r = r' := by
  obtain ⟨run, rest⟩ := hr.cancel hr' (fun _ => isDigit_of_mem_digits)
    (fun _ => isDigit_of_mem_digits) same
  exact ⟨digits_injective run, rest⟩

end Knitting

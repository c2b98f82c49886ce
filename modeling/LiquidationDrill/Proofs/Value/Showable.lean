import LiquidationDrill.Proofs.Text.Numeral
import LiquidationDrill.Value.Arithmetic
import Mathlib.Data.Nat.Digits.Lemmas

/-!
# Values that can be shown

A value is shown unless an integer in it has more than 4300 digits (`Value.isShowable_int`). So ten to the power of 4300
cannot be shown (`Value.not_isShowable_pow_ten`).
-/

namespace LiquidationDrill.Value

/-- **An integer can be shown iff its numeral is not too long.** -/
theorem isShowable_int {n : Int} :
    (Value.int n).isShowable = true ↔ (Nat.digits 10 n.natAbs).length ≤ Text.maxDigits := by
  rw [← Text.decimalLength_eq]
  exact decide_eq_true_iff

/-- A power of ten has one digit more than zeros. -/
theorem not_isShowable_pow_ten {d : Nat} (h : Text.maxDigits ≤ d) : (Value.int (10 ^ d)).isShowable ≠ true := by
  intro hs
  have hten : Int.natAbs 10 = 10 := rfl
  have hlength := (isShowable_int.mp hs).trans h
  rw [Int.natAbs_pow, hten, Nat.digits_length_le_iff (by omega)] at hlength
  exact Nat.lt_irrefl _ hlength

end LiquidationDrill.Value

import LiquidationDrill.Vault.Amount

/-!
# What collateral covers

Collateral is counted in whole units, and a hundredth of these is added (`collateralToPost_eq`). So what is lost by
rounding is known (`rounding_loss`), and it decides whether the collateral still covers the debt (`covers_iff`): from a
hundred units on the hundredth is a unit at least, and below that nothing makes up for a fraction.
-/

namespace LiquidationDrill.Vault

section Rounding

variable (value ratio : Int)

/-- What debt is worth at a ratio, in whole units of collateral. -/
def wholeUnits : Int := value * ratio / 1000000

/-- The collateral is the whole units and a hundredth of them. -/
theorem collateralToPost_eq : collateralToPost value ratio = wholeUnits value ratio + wholeUnits value ratio / 100 := by
  have hwhole : (value * ratio).fdiv Mainnet.ratioPrecision = wholeUnits value ratio :=
    Int.fdiv_eq_ediv_of_nonneg _ (by decide)
  rw [collateralToPost, hwhole, margin, Int.fdiv_eq_ediv_of_nonneg _ (by decide)]
  omega

/-- What the collateral lacks of the margin is what both divisions leave. -/
theorem rounding_loss : 101 * (value * ratio) - 100000000 * collateralToPost value ratio =
    1000000 * (101 * wholeUnits value ratio % 100) + 101 * (value * ratio % 1000000) := by
  rw [collateralToPost_eq, wholeUnits]
  omega

variable {value ratio}

/-- **The debt is covered iff it is worth a hundred units, or no fraction of one.** -/
theorem covers_iff (h : 0 ≤ value * ratio) : value * ratio ≤ collateralToPost value ratio * 1000000 ↔
    100000000 ≤ value * ratio ∨ 1000000 ∣ value * ratio := by
  have hparts : value * ratio = 1000000 * wholeUnits value ratio + value * ratio % 1000000 :=
    (Int.mul_ediv_add_emod _ _).symm
  rw [collateralToPost_eq]
  omega

/-- More debt or a higher ratio takes no less collateral. -/
theorem collateralToPost_le {value' ratio' : Int} (h : value * ratio ≤ value' * ratio') :
    collateralToPost value ratio ≤ collateralToPost value' ratio' := by
  have hwhole : wholeUnits value ratio ≤ wholeUnits value' ratio' := Int.ediv_le_ediv (by decide) h
  rw [collateralToPost_eq, collateralToPost_eq]
  omega

end Rounding

/-- **How collateral is rounded.** It is never above the debt with its margin and less than two units below it; it
covers the debt iff that is worth a hundred units, or no fraction of one; and more debt or a higher ratio takes no
less. -/
theorem collateral_rounded {value ratio : Int} (hv : 0 ≤ value) (hr : 0 ≤ ratio) :
    ∃ posted : Int, collateralOf (.int value) (.int ratio) = .ok (.int posted) ∧
      0 ≤ 101 * (value * ratio) - 100000000 * posted ∧
      101 * (value * ratio) - 100000000 * posted < 200000000 ∧
      (value * ratio ≤ posted * 1000000 ↔ 100000000 ≤ value * ratio ∨ 1000000 ∣ value * ratio) ∧
      ∀ value' ratio', value ≤ value' → ratio ≤ ratio' →
        ∃ more : Int, collateralOf (.int value') (.int ratio') = .ok (.int more) ∧ posted ≤ more := by
  have hloss := rounding_loss value ratio
  have hfirst : 0 ≤ value * ratio % 1000000 ∧ value * ratio % 1000000 < 1000000 :=
    ⟨Int.emod_nonneg _ (by decide), Int.emod_lt_of_pos _ (by decide)⟩
  have hsecond : 0 ≤ 101 * wholeUnits value ratio % 100 ∧ 101 * wholeUnits value ratio % 100 < 100 :=
    ⟨Int.emod_nonneg _ (by decide), Int.emod_lt_of_pos _ (by decide)⟩
  refine ⟨_, collateralOf_int value ratio, by omega, by omega, covers_iff (Int.mul_nonneg hv hr),
    fun value' ratio' hvalue hratio => ⟨_, collateralOf_int value' ratio', collateralToPost_le ?_⟩⟩
  exact Int.mul_le_mul hvalue hratio hr (Int.le_trans hv hvalue)

/-- Debt that is worth a unit and a fraction is not covered. -/
theorem fraction_rounded : (0 : Int) ≤ 7 ∧ (0 : Int) ≤ 200000 ∧
    ∃ posted : Int, collateralOf (.int 7) (.int 200000) = .ok (.int posted) ∧ ¬(7 * 200000 ≤ posted * 1000000) := by
  have hv : (0 : Int) ≤ 7 := by decide
  have hr : (0 : Int) ≤ 200000 := by decide
  obtain ⟨posted, hp, -, -, hcovers, -⟩ := collateral_rounded hv hr
  exact ⟨hv, hr, posted, hp, fun h => absurd (hcovers.mp h) (by decide)⟩

example : collateralToPost 200 1000000 = 202 := by decide

end LiquidationDrill.Vault

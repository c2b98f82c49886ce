import LiquidationDrill.Mainnet.Address
import LiquidationDrill.Value.Arithmetic

/-!
# Amounts of debt and collateral

- `Vault.dustDebt`, `Vault.collateralToPost`: the two amounts of a drill, for integers;
- `Vault.dustDebtOf`, `Vault.collateralOf`: the same for values, with `dustDebtOf_int` and `collateralOf_int`, which say
  that they are the same.
-/

namespace LiquidationDrill.Vault

/-- The least debt in the smallest units of a token: `dust` counts whole tokens of so many decimals. -/
def dustDebt (dust : Int) (decimals : Nat) : Int := dust * Nat.pow 10 decimals

/-- The least debt for values. A negative number of decimals makes it a double. -/
def dustDebtOf (dust decimals : Value) : Except Value.Fault Value := do
  let unit ← decimals.tenTo
  dust.mul unit

/-- What is posted for a hundred units of collateral. -/
def margin : Int := 101

/-- The collateral that covers debt of a value at a ratio, with a margin of one per cent. Both divisions round
down. -/
def collateralToPost (value ratio : Int) : Int :=
  ((value * ratio).fdiv Mainnet.ratioPrecision * margin).fdiv 100

/-- The collateral for values. -/
def collateralOf (value ratio : Value) : Except Value.Fault Value := do
  let exact ← value.mulFloorDiv ratio Mainnet.ratioPrecision.toNat
  exact.mulFloorDiv (.int margin) 100

/-- The least debt is the same for values that are integers. -/
theorem dustDebtOf_int (dust : Int) (decimals : Nat) :
    dustDebtOf (.int dust) (.int decimals) = .ok (.int (dustDebt dust decimals)) := by
  rw [dustDebtOf, Value.tenTo_natCast]
  exact Value.mul_int _ _

/-- The collateral is the same for values that are integers. -/
theorem collateralOf_int (value ratio : Int) :
    collateralOf (.int value) (.int ratio) = .ok (.int (collateralToPost value ratio)) := rfl

end LiquidationDrill.Vault

import LiquidationDrill.Value.Display
import LiquidationDrill.Text.Case

/-!
# Vault ids

Logs show vault ids with quotes, in either case, and with or without `0x`; all these stand for one id.
-/

namespace LiquidationDrill

/-- The plain form of a vault id: no white space and no quotes around it, lower case, no `0x` before it. -/
def plainVaultId (value : Value) : Text :=
  let id := (value.display.strip.trim (· = .ofChar '"')).lower
  (id.dropStart? "0x").getD id

end LiquidationDrill

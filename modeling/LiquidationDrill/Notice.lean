import LiquidationDrill.Text.Basic

/-!
# Notices

What a run tells its operator while it goes on.
-/

namespace LiquidationDrill

/-- A line for the operator. -/
inductive Notice where
  | info (message : Text)
  | warning (message : Text)

namespace Notice

/-- The name of the level of a notice. -/
def levelName : Notice → Text
  | info _ => "INFO"
  | warning _ => "WARNING"

/-- What a notice says. -/
def message : Notice → Text
  | info message => message
  | warning message => message

end Notice

end LiquidationDrill

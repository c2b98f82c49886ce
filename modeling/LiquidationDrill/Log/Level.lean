import LiquidationDrill.Text.Case

/-!
# Log levels
-/

namespace LiquidationDrill

/-- How severe an event of the log is. -/
inductive Level where
  | trace
  | debug
  | info
  | warn
  | error
  deriving DecidableEq

namespace Level

/-- The name of a level. -/
def name : Level → Text
  | trace => "TRACE"
  | debug => "DEBUG"
  | info => "INFO"
  | warn => "WARN"
  | error => "ERROR"

/-- Every level, from the least severe. -/
def all : List Level := [trace, debug, info, warn, error]

/-- The level of a name. -/
def ofName? (t : Text) : Option Level := all.find? fun level => level.name = t

/-- Every level is among all of them. -/
theorem mem_all (level : Level) : level ∈ all := by cases level <;> decide

/-- A level has its name, and no text names two levels. -/
theorem ofName?_eq_some {t : Text} {level : Level} : ofName? t = some level ↔ t = level.name := by
  constructor
  · intro h
    have hn := List.find?_some h
    exact (of_decide_eq_true hn).symm
  · rintro rfl
    cases level <;> decide

end Level

end LiquidationDrill

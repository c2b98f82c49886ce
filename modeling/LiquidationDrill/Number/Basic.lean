import LiquidationDrill.Number.Decimal

/-!
# Numbers

A number of a log line is an integer of any size or a double. Two numbers are the same if they have the same exact
value, whichever kind they are of; what is no number is the same as itself.

- `Number.exact`: the exact value;
- `Number.text`: the number as logs show it;
- `Number.isZero`.
-/

namespace LiquidationDrill

/-- An integer, or a number with a fraction or an exponent. -/
inductive Number where
  | int (n : Int)
  | float (x : Double)
  deriving DecidableEq

namespace Number

/-- The exact value of a number. Both zeros have the same one. -/
inductive Exact where
  | nan (payload : Nat)
  | infinity (negative : Bool)
  | value (x : Dyadic)
  deriving DecidableEq

/-- The exact value of a number: every integer and every finite double is a dyadic rational. -/
def exact : Number → Exact
  | int n => .value (.ofInt n)
  | float (.nan payload) => .nan payload
  | float (.infinity negative) => .infinity negative
  | float .negativeZero => .value 0
  | float (.finite x) => .value x

/-- The number as logs show it. -/
def text : Number → Text
  | int n => Text.ofInt n
  | float x => x.text

/-- A zero of either kind and sign. -/
def isZero : Number → Bool
  | int n => n = 0
  | float x => x.isZero

end Number

end LiquidationDrill

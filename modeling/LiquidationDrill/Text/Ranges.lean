import LiquidationDrill.Text.Basic

/-!
# Ranges of code points

A character class of Unicode is given by the ranges of its members, in rising order.
-/

namespace LiquidationDrill

/-- First and last code point of each range, in rising order. -/
abbrev Ranges := List (Nat × Nat)

namespace Ranges

/-- Membership; the search ends at the first range that begins above `n`. -/
def has : Ranges → Nat → Bool
  | [], _ => false
  | (first, last) :: rest, n => if n < first then false else n ≤ last || has rest n

/-- Ranges that rise: each ends no lower than it begins and below the next. -/
def Rising : Ranges → Prop
  | [] => True
  | [(first, last)] => first ≤ last
  | (first, last) :: (first', last') :: rest => first ≤ last ∧ last < first' ∧ Rising ((first', last') :: rest)

end Ranges

end LiquidationDrill

import LiquidationDrill.Number.Double

/-!
# Fixed point numbers

Logarithms and exponentials that no double can hold are summed up with 256 bits after the point, each term rounded
down.

- `Fixed.artanhInverse`, `Fixed.lnTwo`: a logarithm by its series;
- `Fixed.exp`: the exponential by its series;
- `Fixed.toRat`: a fixed point number as a rational one.
-/

namespace LiquidationDrill

namespace Fixed

/-- One, in fixed point arithmetic with 256 bits after the point. -/
def one : Nat := 1 <<< 256

/-- A fixed point number as a rational one. -/
def toRat (x : Nat) : Rat := mkRat x one

/-- `artanh (1 / n) = 1 / n + 1 / (3 n ^ 3) + 1 / (5 n ^ 5) + …` for `n` above two. -/
def artanhInverse (n : Nat) : Nat :=
  (List.range 90).foldl (fun sum k => sum + one / ((2 * k + 1) * Nat.pow n (2 * k + 1))) 0

/-- The natural logarithm of two, twice `artanh (1 / 3)`. -/
def lnTwo : Nat := 2 * artanhInverse 3

/-- `exp x = 1 + x + x ^ 2 / 2! + x ^ 3 / 3! + …` for `x` below three. -/
def exp (x : Nat) : Nat :=
  ((List.range 120).foldl (fun (sum, term) k => (sum + term, term * x / (one * (k + 1)))) (0, one)).1

example : exp 0 = one := by decide +kernel

end Fixed

end LiquidationDrill

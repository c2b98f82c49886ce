import LiquidationDrill.Number.Basic
import LiquidationDrill.Number.PowerOfTen

/-!
# Arithmetic of numbers

Integers are computed exactly. Where a double takes part, the integers are doubles too, and every step is rounded to
the nearest double.

- `Double.add`, `Double.mul`, `Double.floorDiv`: doubles, with infinities, signed zeros and what is no number;
- `Number.add`, `Number.mul`, `Number.floorDiv`, `Number.tenTo`: numbers, or the `Number.Fault` that there is none.
-/

namespace LiquidationDrill

namespace Double

/-- The double nearest to a rational number, with the given sign where the number itself is zero. -/
def rounded (zeroIsNegative : Bool) (x : Rat) : Double :=
  nearestQuotient (x.num < 0 || (x.num = 0 && zeroIsNegative)) x.num.natAbs x.den

/-- A sum. Opposite infinities have none. -/
def add (x y : Double) : Double :=
  match x.toRat?, y.toRat? with
  | some p, some q => rounded (x.isNegative && y.isNegative) (p + q)
  | some _, none => y
  | none, some _ => x
  | none, none => if x = y then x else nan 0

/-- A product. An infinity and a zero have none. -/
def mul (x y : Double) : Double :=
  match x.toRat?, y.toRat? with
  | some p, some q => rounded (x.isNegative != y.isNegative) (p * q)
  | _, _ =>
    if x.isNan || y.isNan || x.isZero || y.isZero then nan 0 else infinity (x.isNegative != y.isNegative)

/-- The whole part of a quotient that was rounded: a quotient just below an integer is taken for it. -/
def wholePart (quotient : Rat) : Double :=
  let below : Rat := quotient.floor
  rounded false (if 1 / 2 < quotient - below then below + 1 else below)

/-- A quotient by a positive `d`, rounded down. The remainder is exact, and what is left is divided with rounding. -/
def floorDiv (x : Double) (d : Nat) : Double :=
  match x.toRat? with
  | none => nan 0
  | some p =>
    let rest := p - (p.num.tdiv (p.den * d) : Rat) * (d : Rat)
    let quotient := toNearest (toNearest (p - rest) / (d : Rat))
    let lowered := if rest < 0 then toNearest (quotient - 1) else quotient
    if lowered = 0 then rounded x.isNegative 0 else wholePart lowered

end Double

namespace Number

/-- Why there is no number. -/
inductive Fault where
  /-- An integer is too large for a double. -/
  | tooLarge
  /-- A power is too large for a double. -/
  | outOfRange
  deriving DecidableEq

/-- The wording of a fault. -/
def Fault.message : Fault → Text
  | tooLarge => "int too large to convert to float"
  | outOfRange => "(34, 'Numerical result out of range')"

/-- The double nearest to a number. -/
def toDouble : Number → Except Fault Double
  | int n =>
    match Double.ofInt? n with
    | some x => .ok x
    | none => .error .tooLarge
  | float x => .ok x

/-- Integers by one operation, and doubles by another one. -/
def combine (onInts : Int → Int → Int) (onDoubles : Double → Double → Double) :
    Number → Number → Except Fault Number
  | int m, int n => .ok (int (onInts m n))
  | x, y => do
    let x ← x.toDouble
    let y ← y.toDouble
    return float (onDoubles x y)

/-- A sum. -/
def add : Number → Number → Except Fault Number := combine (· + ·) Double.add

/-- A product. -/
def mul : Number → Number → Except Fault Number := combine (· * ·) Double.mul

/-- A quotient by a positive `d`, rounded down. -/
def floorDiv (x : Number) (d : Nat) : Number :=
  match x with
  | int n => int (n.fdiv d)
  | float x => float (x.floorDiv d)

/-- Ten to the power of a double. -/
def tenToDouble (x : Double) : Except Fault Number :=
  match x.tenTo? with
  | some power => .ok (float power)
  | none => .error .outOfRange

/-- Ten to the power of a number: an integer for natural exponents. -/
def tenTo : Number → Except Fault Number
  | int e => if 0 ≤ e then .ok (int (Nat.pow 10 e.toNat)) else (int e).toDouble >>= tenToDouble
  | float x => tenToDouble x

/-- Ten to a natural power is an integer. -/
theorem tenTo_natCast (n : Nat) : tenTo (int n) = .ok (int (Nat.pow 10 n)) := by
  simp [tenTo]

end Number

end LiquidationDrill

import LiquidationDrill.Text.Numeral

/-!
# Double precision numbers

A double is a dyadic rational with 53 significant bits and a bounded exponent, or a negative zero, an infinity or
no number at all; what is no number carries a payload, by which two of them are told apart. Numbers that are none of
these are rounded to the nearest one, ties to even.

- `Nat.roundDiv`: a quotient rounded to the nearest integer;
- `Double.nearest`: the double nearest to a rational number; `Double.toNearest`: the rational number that it is;
- `Double.ofDecimal`: the double that a decimal literal stands for;
- `Double.ofInt?`: the double nearest to an integer, unless it is too large for any.
-/

namespace LiquidationDrill

/-- `n / d` rounded to the nearest integer; a half goes to the even neighbour. -/
def roundDiv (n d : Nat) : Nat :=
  let q := n / d
  let r := n % d
  if 2 * r < d then q else if d < 2 * r then q + 1 else if q % 2 = 0 then q else q + 1

/-- A number of double precision. -/
inductive Double where
  | nan (payload : Nat)
  | infinity (negative : Bool)
  | negativeZero
  | finite (value : Dyadic)
  deriving DecidableEq

namespace Double

/-- The number of significant bits. -/
def precision : Nat := 53

/-- The exponent of the lowest bit that a double can have. -/
def lowestExponent : Int := -1074

/-- Doubles are below two to this power. -/
def exponentLimit : Int := 1024

/-- The greatest `e` with `2 ^ e ≤ n / d`, for positive `n` and `d`. -/
def floorLog2 (n d : Nat) : Int :=
  let e : Int := (n.log2 : Int) - d.log2
  let fits := if 0 ≤ e then d <<< e.toNat ≤ n else d ≤ n <<< (-e).toNat
  if fits then e else e - 1

/-- The double nearest to `n / d`, for positive `d`, with the given sign. -/
def nearestQuotient (negative : Bool) (n d : Nat) : Double :=
  if n = 0 then if negative then negativeZero else finite 0
  else
    let exponent := max (floorLog2 n d - (precision - 1 : Nat)) lowestExponent
    let mantissa :=
      if 0 ≤ exponent then roundDiv n (d <<< exponent.toNat) else roundDiv (n <<< (-exponent).toNat) d
    if mantissa = 0 then if negative then negativeZero else finite 0
    else if exponentLimit ≤ (mantissa.log2 : Int) + exponent then infinity negative
    else finite (.ofIntWithPrec (if negative then -(mantissa : Int) else mantissa) (-exponent))

/-- The double nearest to a rational number. -/
def nearest (x : Rat) : Double := nearestQuotient (x.num < 0) x.num.natAbs x.den

/-- The double nearest to an integer, unless it is too large for any. -/
def ofInt? (n : Int) : Option Double :=
  match nearestQuotient (n < 0) n.natAbs 1 with
  | infinity _ => none
  | x => some x

/-- The number of decimal digits of `n`. -/
def decimalLength (n : Nat) : Nat := (Text.digitsRev 10 n.log2.succ n).length

/-- The double nearest to `± digits · 10 ^ exponent`. The number is at least `10 ^ (length + exponent - 1)` and
below `10 ^ (length + exponent)`, which decides alone where it is far out of range. -/
def ofDecimal (negative : Bool) (digits : Nat) (exponent : Int) : Double :=
  let size : Int := decimalLength digits + exponent
  if digits = 0 then if negative then negativeZero else finite 0
  else if 400 < size then infinity negative
  else if size < -400 then if negative then negativeZero else finite 0
  else if 0 ≤ exponent then nearestQuotient negative (digits * Nat.pow 10 exponent.toNat) 1
  else nearestQuotient negative digits (Nat.pow 10 (-exponent).toNat)

/-- The sign of a double is a minus. -/
def isNegative : Double → Bool
  | nan _ => false
  | infinity negative => negative
  | negativeZero => true
  | finite value => value.toRat < 0

/-- A zero of either sign. -/
def isZero : Double → Bool
  | negativeZero => true
  | finite value => value == 0
  | _ => false

/-- A double that is no number. -/
def isNan : Double → Bool
  | nan _ => true
  | _ => false

/-- The rational number that a double is, unless it is none. -/
def toRat? : Double → Option Rat
  | negativeZero => some 0
  | finite value => some value.toRat
  | _ => none

/-- A rational number in the range of doubles, rounded to the nearest one. -/
def toNearest (x : Rat) : Rat := (nearest x).toRat?.getD 0

end Double

end LiquidationDrill

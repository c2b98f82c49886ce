import LiquidationDrill.Number.Fixed

/-!
# Powers of ten

Ten to the power of a double `y`. The logarithm `y · ln 10` is split into `k / 128 · ln 2 + r` with an integer `k` and a
small rest `r`, so that the power is `2 ^ (k / 128) · exp r`. The first factor is a root of two and a shift, the second
one a polynomial. All steps are rounded to doubles; where a power is close to the middle between two doubles, it is
the steps that choose one of them.

- `PowerOfTen.logarithm`: the logarithm of the power in two parts;
- `PowerOfTen.Split`, `PowerOfTen.split`: the logarithm as `k` and `r`;
- `PowerOfTen.root`, `PowerOfTen.excess`: the two factors;
- `PowerOfTen.join`: their product;
- `Double.tenTo?`: the power, unless it is too large.
-/

namespace LiquidationDrill

namespace PowerOfTen

open Double (toNearest)

/-- `m / 2 ^ places`. -/
def binary (m : Int) (places : Nat) : Rat := mkRat m (1 <<< places)

/-! ## The logarithm -/

/-- The natural logarithm of ten as a double. -/
def lnTen : Rat := binary 0x126bb1bbb55516 51

/-- What `lnTen` lacks of the logarithm. -/
def lnTenRest : Rat := binary (-0x1f48ad482) 85

/-- The logarithm of the power as a double, and what the double lacks of it. -/
def logarithm (y : Rat) : Rat × Rat :=
  let value := toNearest (y * lnTen)
  (value, toNearest (y * lnTenRest + toNearest (y * lnTen - value)))

/-- The number of steps into which the doubling is divided. -/
def steps : Nat := 128

/-- The number of steps in a logarithm of one, `128 / ln 2`. -/
def stepsPerUnit : Rat := binary 0x171547652b82fe 45

/-- The logarithm of a step, `ln 2 / 128`, with so few bits that its multiples are exact. -/
def step : Rat := binary 0x162e42fefa 44

/-- What `step` lacks of the logarithm of a step. -/
def stepRest : Rat := binary 0x1cf79abc9e3b3a 99

/-- A logarithm as a whole number of steps and a rest. -/
structure Split where
  count : Int
  rest : Rat

/-- The integer nearest to a rational number; a half goes to the even neighbour. -/
def nearestInt (x : Rat) : Int :=
  let size : Int := roundDiv x.num.natAbs x.den
  if x.num < 0 then -size else size

/-- Splits a logarithm that is given in two parts, so that the rest is at most half a step. -/
def split (value lacking : Rat) : Split :=
  let count := nearestInt (value * stepsPerUnit)
  ⟨count, toNearest (lacking + toNearest (toNearest (value - count * step) - count * stepRest))⟩

/-! ## The factors -/

/-- `2 ^ (i / 128)` for `i` below 128, far more precise than a double. -/
def preciseRoot (i : Nat) : Rat := Fixed.toRat (Fixed.exp (i * Fixed.lnTwo / steps))

/-- `2 ^ (i / 128)` as a double. -/
def root (i : Nat) : Rat := toNearest (preciseRoot i)

/-- What `root` lacks, in proportion to it. -/
def rootRest (i : Nat) : Rat := toNearest (preciseRoot i / root i - 1)

/-- `exp rest - 1` for a rest of half a step at most, and what is lacking in the root beside it:
`r + r ^ 2 / 2 + r ^ 3 / 6 + r ^ 4 / 24 + r ^ 5 / 120`, where the coefficients are fitted to so small an `r`. -/
def excess (rest lacking : Rat) : Rat :=
  let second := binary 0x1ffffffffffdbd 54
  let third := binary 0x1555555555543c 55
  let fourth := binary 0x155555cf172b91 57
  let fifth := binary 0x11111167a4d017 59
  let square := toNearest (rest * rest)
  let low := toNearest (toNearest (rest * third + second) * square + toNearest (rest + lacking))
  toNearest (toNearest (rest * fifth + fourth) * toNearest (square * square) + low)

/-! ## The power -/

/-- The least double with all bits; those below it have fewer. -/
def leastFull : Rat := binary 1 1022

/-- `x · 2 ^ places`. -/
def shifted (x : Rat) (places : Int) : Rat :=
  if 0 ≤ places then x * ((1 <<< places.toNat : Nat) : Rat) else x * binary 1 (-places).toNat

/-- `scale · (1 + excess)`, where the result may have fewer bits than other doubles. The sum of one and a number below one
has just the bits that such a result can have, so that it is rounded there, together with what the steps before
have lost. -/
def joinSmall (scale excess : Rat) : Rat :=
  let large := scale / leastFull
  let added := toNearest (large * excess)
  let sum := toNearest (large + added)
  if sum < 1 then
    let lost := toNearest (toNearest (large - sum) + added)
    let above := toNearest (1 + sum)
    let low := toNearest (toNearest (toNearest (1 - above) + sum) + lost)
    toNearest (toNearest (above + low) - 1) * leastFull
  else sum * leastFull

/-- `2 ^ (k / 128) · exp r` for a split logarithm. -/
def join (split : Split) (isSmall : Bool) : Double :=
  let i := (split.count % (steps : Int)).toNat
  let scale := shifted (root i) (split.count / (steps : Int))
  let excess := excess split.rest (rootRest i)
  Double.nearest (if isSmall then joinSmall scale excess else scale * excess + scale)

/-- Ten to the power of a rational number that is a double, far beyond the range of doubles infinite or zero. -/
def ofExponent (y : Rat) : Double :=
  let (value, lacking) := logarithm y
  if 1024 ≤ y * lnTen then .infinity false
  else if y * lnTen ≤ -1024 then .finite 0
  else if binary (-1) 54 < value ∧ value < binary 1 54 then Double.nearest (1 + value)
  else join (split value lacking) (value ≤ -512)

example : ofExponent 0 = .finite 1 := by decide +kernel

example : ofExponent 1 = .finite 10 := by decide +kernel

end PowerOfTen

/-- Ten to the power of a double, unless it is finite and too large for a double. -/
def Double.tenTo? : Double → Option Double
  | nan payload => some (nan payload)
  | infinity false => some (infinity false)
  | infinity true => some (finite 0)
  | x =>
    match PowerOfTen.ofExponent (x.toRat?.getD 0) with
    | infinity _ => none
    | power => some power

end LiquidationDrill

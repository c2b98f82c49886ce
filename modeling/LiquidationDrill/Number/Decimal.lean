import LiquidationDrill.Number.Double

/-!
# The shortest decimal of a double

A double is written with the fewest digits that read back as the same double, and of those with the nearest ones; of
two equally near the one that ends in an even digit.

- `Double.shortest`: the digits and their exponent;
- `DecimalFormat`: which numbers are written with an exponent, and how;
- `Double.text`: the double in the format of the logs.
-/

namespace LiquidationDrill

namespace Double

/-- The neighbours of `n / d` among the multiples of `10 ^ exponent`, as multiples, and whether `n / d` is nearer to
the lower one, with ties to even. -/
def neighbours (n d : Nat) (exponent : Int) : Nat × Nat × Bool :=
  let (n, d) := if 0 ≤ exponent then (n, d * Nat.pow 10 exponent.toNat) else (n * Nat.pow 10 (-exponent).toNat, d)
  (n / d, n / d + 1, roundDiv n d = n / d)

/-- The greatest `e` with `10 ^ e ≤ n / d`, for positive `n` and `d`. -/
def floorLog10 (n d : Nat) : Int :=
  let e : Int := (decimalLength n : Int) - decimalLength d
  let fits := if 0 ≤ e then d * Nat.pow 10 e.toNat ≤ n else d ≤ n * Nat.pow 10 (-e).toNat
  if fits then e else e - 1

/-- A decimal with digits `digits` that are to be followed by `exponent` zeros. -/
structure Decimal where
  digits : Nat
  exponent : Int

/-- The decimal with `count` digits that reads back as `x`, which is `n / d`: the nearer one if both neighbours
do. -/
def decimal? (x : Double) (n d : Nat) (count : Nat) : Option Decimal :=
  let exponent := floorLog10 n d - (count - 1 : Nat)
  let (below, above, preferBelow) := neighbours n d exponent
  let readsBack (digits : Nat) : Bool := ofDecimal false digits exponent = x
  let (first, second) := if preferBelow then (below, above) else (above, below)
  if readsBack first then some ⟨first, exponent⟩
  else if readsBack second then some ⟨second, exponent⟩
  else none

/-- The shortest decimal of the positive double `x`, which is `n / d`. Seventeen digits always suffice. -/
def shortest (x : Double) (n d : Nat) : Decimal :=
  match ((List.range 16).map (· + 1)).findSome? (decimal? x n d) with
  | some decimal => decimal
  | none => (decimal? x n d 17).getD ⟨0, 0⟩

end Double

/-- How numbers with a fraction are written: positionally if the exponent of the first digit is in a range, and
otherwise with one digit before the point. -/
structure DecimalFormat where
  lowestPositional : Int
  highestPositional : Int
  /-- Stands between the digits and the exponent. -/
  exponentMark : Text
  /-- The least number of digits of the exponent. -/
  exponentWidth : Nat
  nan : Text
  infinity : Text

/-- Logs are shown with exponents below `1e-4` and from `1e16` on. -/
def DecimalFormat.log : DecimalFormat where
  lowestPositional := -4
  highestPositional := 15
  exponentMark := "e"
  exponentWidth := 2
  nan := "nan"
  infinity := "inf"

namespace Double

/-- The digits of a decimal without zeros at the end, and the exponent of the first digit. -/
def Decimal.normal (x : Decimal) : Text × Int :=
  let digits := Text.ofNat x.digits
  let trimmed := (digits.reverse.dropWhile (· = .ofChar '0')).reverse
  (if trimmed.isEmpty then "0" else trimmed, x.exponent + digits.length - 1)

/-- Digits of which the first stands for `10 ^ lead`, with at least one digit on each side of the point. -/
def positional (digits : Text) (lead : Int) : Text :=
  if lead < 0 then "0." ++ List.replicate ((-lead).toNat - 1) (CodePoint.ofChar '0') ++ digits
  else
    let whole := lead.toNat + 1
    let padded := digits ++ List.replicate (whole - digits.length) (CodePoint.ofChar '0')
    let fraction := padded.drop whole
    padded.take whole ++ "." ++ (if fraction.isEmpty then ("0" : Text) else fraction)

/-- One digit before the point, the others after it, and the exponent. -/
def scientific (format : DecimalFormat) (digits : Text) (lead : Int) : Text :=
  let exponent := Text.ofNat lead.natAbs
  let zeros := List.replicate (format.exponentWidth - exponent.length) (CodePoint.ofChar '0')
  let fraction := digits.drop 1
  digits.take 1 ++ (if fraction.isEmpty then [] else ("." : Text) ++ fraction) ++ format.exponentMark ++
    (if lead < 0 then ("-" : Text) else "+") ++ zeros ++ exponent

/-- A positive number, given by digits and the exponent of the first one. -/
def decimalText (format : DecimalFormat) (digits : Text) (lead : Int) : Text :=
  if format.lowestPositional ≤ lead ∧ lead ≤ format.highestPositional then positional digits lead
  else scientific format digits lead

/-- A double in a format. -/
def textIn (format : DecimalFormat) : Double → Text
  | nan _ => format.nan
  | infinity false => format.infinity
  | infinity true => "-" ++ format.infinity
  | negativeZero => "-0.0"
  | finite value =>
    let x := value.toRat
    if x.num = 0 then "0.0"
    else
      let (digits, lead) := (shortest (nearest x.abs) x.num.natAbs x.den).normal
      (if x.num < 0 then ("-" : Text) else []) ++ decimalText format digits lead

/-- A double as logs are shown. -/
def text (x : Double) : Text := x.textIn .log

/-- A double without a fraction: the nearest integer, a half to the even one, and the sign even where it is zero. -/
def wholeText (x : Double) : Text :=
  match x with
  | nan _ => DecimalFormat.log.nan
  | infinity false => DecimalFormat.log.infinity
  | infinity true => "-" ++ DecimalFormat.log.infinity
  | negativeZero => "-0"
  | finite value =>
    let x := value.toRat
    (if x.num < 0 then ("-" : Text) else []) ++ Text.ofNat (roundDiv x.num.natAbs x.den)

end Double

end LiquidationDrill

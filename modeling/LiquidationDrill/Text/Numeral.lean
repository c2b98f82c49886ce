import LiquidationDrill.Text.Blank
import LiquidationDrill.Text.Digit

/-!
# Numerals

- `Text.ofNat`, `Text.ofInt`: decimal numerals;
- `Text.hexOfInt`, `Text.hexByte`: hexadecimal numerals and bytes, in lower case;
- `Text.ofDigits`: the value of a row of digits;
- `Text.toInt?`: the integer a text spells, with a limit on the number of its digits.
-/

namespace LiquidationDrill

namespace CodePoint

/-- The digit of a value below sixteen, in lower case. -/
def ofDigit (n : Nat) : CodePoint := ofNat (if n < 10 then 0x30 + n else 0x57 + n)

/-- The value of a digit of ASCII. -/
def digit (c : CodePoint) : Nat := c.val - 0x30

end CodePoint

namespace Text

/-- The digits of `n` in base `base`, the lowest first; none for zero. -/
def digitsRev (base : Nat) : (fuel n : Nat) → List Nat
  | 0, _ => []
  | fuel + 1, n => if n = 0 then [] else n % base :: digitsRev base fuel (n / base)

/-- The numeral of `n` in base `base`: no leading zeros, and one digit for zero. -/
def numeral (base n : Nat) : Text :=
  if n = 0 then [CodePoint.ofDigit 0] else ((digitsRev base n.log2.succ n).map CodePoint.ofDigit).reverse

/-- The decimal numeral of a natural number. -/
def ofNat (n : Nat) : Text := numeral 10 n

/-- The decimal numeral of an integer, with a minus where it is negative. -/
def ofInt (n : Int) : Text := if n < 0 then '-' :: ofNat n.natAbs else ofNat n.natAbs

/-- The hexadecimal numeral of an integer: a minus where it is negative, `0x`, then the digits. -/
def hexOfInt (n : Int) : Text := (if n < 0 then ("-" : Text) else []) ++ "0x" ++ numeral 16 n.natAbs

/-- `n` in base sixteen with at least `width` digits. -/
def hexPadded (width n : Nat) : Text :=
  let digits := numeral 16 n
  List.replicate (width - digits.length) (CodePoint.ofDigit 0) ++ digits

/-- A byte as two digits. -/
def hexByte (b : UInt8) : Text := [CodePoint.ofDigit (b.toNat / 16), CodePoint.ofDigit (b.toNat % 16)]

/-- Bytes as two digits each. -/
def hexBytes (bytes : List UInt8) : Text := bytes.flatMap hexByte

/-- The bytes that pairs of digits spell. -/
def bytes? : Text → Option (List UInt8)
  | [] => some []
  | [_] => none
  | c :: d :: t =>
    match c.hex?, d.hex?, bytes? t with
    | some high, some low, some bytes => some (.ofNat (16 * high + low) :: bytes)
    | _, _, _ => none

/-- The number that a row of decimal digits spells. -/
def ofDigits (digits : List Nat) : Nat := digits.foldl (fun n d => 10 * n + d) 0

/-- The most digits that a numeral may have to be read as an integer. -/
def maxDigits : Nat := 4300

/-- White space around an integer: the separators of ASCII that end a file, a group, a record or a unit do not
count here. -/
def isBlankAroundInt (c : CodePoint) : Bool := c.isBlank && !(0x1C ≤ c.val && c.val ≤ 0x1F)

/-- The digits of a numeral; a single underscore may part two of them. -/
def digits? : Text → Option (List Nat)
  | [] => none
  | c :: t =>
    match c.decimal?, t with
    | none, _ => none
    | some d, [] => some [d]
    | some d, e :: t =>
      if e = '_' then (digits? t).map (d :: ·) else (digits? (e :: t)).map (d :: ·)

/-- The integer a text spells: white space, a sign, decimal digits of any script, and white space again. A numeral
of more than `maxDigits` digits spells none. -/
def toInt? (t : Text) : Option Int :=
  let read (digits : Text) : Option Nat :=
    (digits? digits).bind fun ds => if ds.length ≤ maxDigits then some (ofDigits ds) else none
  match t.trim isBlankAroundInt with
  | [] => none
  | c :: digits =>
    if c = '-' then (read digits).map fun n => -(n : Int)
    else if c = '+' then (read digits).map fun n => (n : Int)
    else (read (c :: digits)).map fun n => (n : Int)

end Text

end LiquidationDrill

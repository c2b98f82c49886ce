import LiquidationDrill.Text.Numeral
import LiquidationDrill.Text.Printable

/-!
# Quoted text

A quoted text shows every code point: single quotes around it, or double quotes where single quotes stand in it and
double ones do not; the quote, the backslash and what cannot be printed are escaped. Bytes are quoted as text of ASCII
with a letter before it, where all bytes above ASCII are escaped.
-/

namespace LiquidationDrill

/-- A code point within quotes: as it is, or a backslash and a letter, or its number in two, four or eight digits. -/
def CodePoint.escaped (quote c : CodePoint) : Text :=
  if c = quote ∨ c = '\\' then [.ofChar '\\', c]
  else if c = '\t' then "\\t"
  else if c = '\n' then "\\n"
  else if c = '\r' then "\\r"
  else if c.isPrintable then [c]
  else if c.val < 0x100 then "\\x" ++ Text.hexPadded 2 c.val
  else if c.val < 0x10000 then "\\u" ++ Text.hexPadded 4 c.val
  else "\\U" ++ Text.hexPadded 8 c.val

namespace Text

/-- The quote for a text: double where it holds single quotes only. -/
def quoteMark (t : Text) : CodePoint := if t.any (· = .ofChar '\'') && !t.any (· = .ofChar '"') then '"' else '\''

/-- The text in quotes. -/
def quoted (t : Text) : Text :=
  [t.quoteMark] ++ t.flatMap (CodePoint.escaped t.quoteMark) ++ [t.quoteMark]

/-- The code point of the same number as a byte. -/
def ofByte (b : UInt8) : CodePoint := CodePoint.ofNat b.toNat

/-- A byte within quotes. -/
def escapedByte (quote : CodePoint) (b : UInt8) : Text :=
  if b.toNat < 0x80 then CodePoint.escaped quote (ofByte b) else "\\x" ++ hexByte b

/-- Bytes in quotes. -/
def quotedBytes (bytes : List UInt8) : Text :=
  let mark := quoteMark (bytes.map ofByte)
  ("b" : Text) ++ [mark] ++ bytes.flatMap (escapedByte mark) ++ [mark]

end Text

end LiquidationDrill

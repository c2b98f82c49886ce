import LiquidationDrill.Text.Blank

/-!
# Lines

A text falls into lines at the line ends of Unicode; a carriage return and the line feed after it are one end, and
the last line need not have one.

- `Text.lines`: the lines without their ends;
- `Text.unifyNewlines`: the text with every carriage return, alone or before a line feed, written as a line feed;
- `Text.dropPairedReturns`: the text without the carriage returns that stand before a line feed.
-/

namespace LiquidationDrill

/-- Ends a line: line feed, vertical tab, form feed, carriage return, the three upper separators of ASCII, next
line, and the line and paragraph separators. -/
def CodePoint.isLineEnd (c : CodePoint) : Bool :=
  (0x0A ≤ c.val && c.val ≤ 0x0D) || (0x1C ≤ c.val && c.val ≤ 0x1E) || c.val = 0x85 || c.val = 0x2028 ||
    c.val = 0x2029

namespace Text

/-- The lines of a text. No empty line follows the last line end. -/
def lines : Text → List Text
  | [] => []
  | c :: t =>
    if c = '\r' ∧ t.head? = some (.ofChar '\n') then lines t
    else if c.isLineEnd then [] :: lines t
    else
      match lines t with
      | [] => [[c]]
      | line :: rest => (c :: line) :: rest

/-- Line ends of all three kinds of system become line feeds. -/
def unifyNewlines : Text → Text
  | [] => []
  | c :: t =>
    if c = '\r' then (if t.head? = some (.ofChar '\n') then unifyNewlines t else '\n' :: unifyNewlines t)
    else c :: unifyNewlines t

/-- A carriage return right before a line feed is left out; of several ones only the last is. -/
def dropPairedReturns : Text → Text
  | [] => []
  | c :: t =>
    if c = '\r' ∧ t.head? = some (.ofChar '\n') then dropPairedReturns t else c :: dropPairedReturns t

end Text

end LiquidationDrill

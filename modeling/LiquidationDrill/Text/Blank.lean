import LiquidationDrill.Text.Ranges

/-!
# Blanks

The code points that count as white space: the separators of Unicode and the control characters that part lines,
paragraphs and sections.
-/

namespace LiquidationDrill

/-- The ranges of white space. -/
def blankRanges : Ranges :=
  [(0x09, 0x0D), (0x1C, 0x20), (0x85, 0x85), (0xA0, 0xA0), (0x1680, 0x1680), (0x2000, 0x200A), (0x2028, 0x2029),
   (0x202F, 0x202F), (0x205F, 0x205F), (0x3000, 0x3000)]

/-- White space. -/
def CodePoint.isBlank (c : CodePoint) : Bool := blankRanges.has c.val

namespace Text

/-- Nothing but white space. -/
def isBlank (t : Text) : Bool := t.all CodePoint.isBlank

/-- The text without the white space around it. -/
def strip (t : Text) : Text := t.trim CodePoint.isBlank

end Text

end LiquidationDrill

import LiquidationDrill.Text.Lines
import LiquidationDrill.Text.Utf8

/-!
# Text files

A file holds a text in UTF-8; line ends of all three kinds of system are read as line feeds.
-/

namespace LiquidationDrill

/-- The text of a file with these bytes, or the first place where they are no UTF-8. -/
def Text.ofFile (bytes : List UInt8) : Except Utf8.Malformed Text := (Utf8.decode bytes).map Text.unifyNewlines

end LiquidationDrill

import LiquidationDrill.Text.Basic

/-!
# Terminal output

Output that does not go to a terminal carries no control sequences: an escape, an opening bracket, digits, question
marks and semicolons, and the letter that ends them are left out.
-/

namespace LiquidationDrill

namespace CodePoint

/-- The escape character. -/
def isEscape (c : CodePoint) : Bool := c.val = 0x1B

/-- Stands between the bracket and the last letter of a control sequence. -/
def isControlParameter (c : CodePoint) : Bool := (0x30 ≤ c.val && c.val ≤ 0x39) || c = ';' || c = '?'

/-- A letter of ASCII. -/
def isAsciiLetter (c : CodePoint) : Bool := (0x41 ≤ c.val && c.val ≤ 0x5A) || (0x61 ≤ c.val && c.val ≤ 0x7A)

end CodePoint

namespace Text

/-- The length of the control sequence with which the text begins, zero if it begins with none. -/
def controlLength : Text → Nat
  | c :: d :: t =>
    if c.isEscape && d = '[' then
      let parameters := (t.takeWhile CodePoint.isControlParameter).length
      match t.drop parameters with
      | e :: _ => if e.isAsciiLetter then parameters + 3 else 0
      | [] => 0
    else 0
  | _ => 0

/-- Leaves out the next `skip` code points, then every control sequence. -/
def plainAfter : (skip : Nat) → Text → Text
  | _, [] => []
  | skip + 1, _ :: t => plainAfter skip t
  | 0, c :: t =>
    match controlLength (c :: t) with
    | 0 => c :: plainAfter 0 t
    | n + 1 => plainAfter n t

/-- The text without control sequences. -/
def plain (t : Text) : Text := plainAfter 0 t

end Text

end LiquidationDrill

import LiquidationDrill.Value.Basic

/-!
# Writing JSON

JSON is written in ASCII: all else is escaped, code points above U+FFFF as two halves of a surrogate pair.

- `Json.Layout`: what stands between the items of a value;
- `Json.write`: a value in a layout; `Json.oneLine` and `Json.indented` in the two of this library;
- `Json.memberName?`: the name of a member that is called by a value;
- `Json.isWritable`: no bytes stand in a value. Bytes have no form in JSON, and `Json.write` leaves them out.
-/

namespace LiquidationDrill

namespace Json

/-- A sixteen bit unit as an escape. -/
def unitEscape (n : Nat) : Text := "\\u" ++ Text.hexPadded 4 n

/-- A code point within a string. -/
def escape (c : CodePoint) : Text :=
  if c = '"' then "\\\""
  else if c = '\\' then "\\\\"
  else if c = '\n' then "\\n"
  else if c = '\r' then "\\r"
  else if c = '\t' then "\\t"
  else if c.val = 0x0C then "\\f"
  else if c.val = 0x08 then "\\b"
  else if 0x20 ≤ c.val ∧ c.val ≤ 0x7E then [c]
  else if c.val < 0x10000 then unitEscape c.val
  else unitEscape (0xD800 + (c.val - 0x10000) / 0x400) ++ unitEscape (0xDC00 + (c.val - 0x10000) % 0x400)

/-- A string in double quotes. -/
def writeString (t : Text) : Text := "\"" ++ t.flatMap escape ++ "\""

/-- A number; infinities and the value that is no number have names. -/
def writeNumber : Number → Text
  | .int n => Text.ofInt n
  | .float (.nan _) => "NaN"
  | .float (.infinity false) => "Infinity"
  | .float (.infinity true) => "-Infinity"
  | .float x => x.text

/-- The name of a member that is called by a value: a text, or how a number, a truth value or null is written. -/
def memberName? : Value → Option Text
  | .string t => some t
  | .number n => some (writeNumber n)
  | .bool true => some "true"
  | .bool false => some "false"
  | .null => some "null"
  | .bytes _ | .array _ | .object _ => none

/-- What stands around the items of a value that is so many levels deep. -/
structure Layout where
  /-- Stands after the opening bracket, one level deeper, and before the closing one. -/
  gap : Nat → Text
  /-- Stands between items. -/
  separator : Nat → Text

/-- Everything on one line. -/
def Layout.oneLine : Layout := ⟨fun _ => [], fun _ => ", "⟩

/-- An item a line, two blanks deeper each level. -/
def Layout.indented : Layout :=
  ⟨fun depth => "\n" ++ Text.spaces (2 * depth), fun depth => ",\n" ++ Text.spaces (2 * depth)⟩

mutual

/-- A value in a layout, as part of one that is `depth` levels deep. -/
def write (layout : Layout) (depth : Nat) : Value → Text
  | .null => "null"
  | .bool true => "true"
  | .bool false => "false"
  | .number n => writeNumber n
  | .string t => writeString t
  | .bytes _ => []
  | .array [] => "[]"
  | .array (x :: xs) =>
    "[" ++ layout.gap (depth + 1) ++ write layout (depth + 1) x ++ writeItems layout (depth + 1) xs ++
      layout.gap depth ++ "]"
  | .object [] => "\x7b\x7d"
  | .object ((name, x) :: xs) =>
    "\x7b" ++ layout.gap (depth + 1) ++ writeString name ++ ": " ++ write layout (depth + 1) x ++
      writeMembers layout (depth + 1) xs ++ layout.gap depth ++ "\x7d"

/-- Further items of an array. -/
def writeItems (layout : Layout) (depth : Nat) : List Value → Text
  | [] => []
  | x :: xs => layout.separator depth ++ write layout depth x ++ writeItems layout depth xs

/-- Further members of an object. -/
def writeMembers (layout : Layout) (depth : Nat) : List (Text × Value) → Text
  | [] => []
  | (name, x) :: xs =>
    layout.separator depth ++ writeString name ++ ": " ++ write layout depth x ++ writeMembers layout depth xs

end

mutual

/-- No bytes stand in a value. -/
def isWritable : Value → Bool
  | .bytes _ => false
  | .array items => areWritable items
  | .object members => membersAreWritable members
  | .null | .bool _ | .number _ | .string _ => true

/-- No bytes stand in any of the values. -/
def areWritable : List Value → Bool
  | [] => true
  | x :: xs => isWritable x && areWritable xs

/-- No bytes stand in any of the members. -/
def membersAreWritable : List (Text × Value) → Bool
  | [] => true
  | (_, x) :: xs => isWritable x && membersAreWritable xs

end

/-- A value on one line. -/
def oneLine (x : Value) : Text := write .oneLine 0 x

/-- A value with an item a line. -/
def indented (x : Value) : Text := write .indented 0 x

end Json

end LiquidationDrill

import LiquidationDrill.Value.Basic
import LiquidationDrill.Text.Quoted

/-!
# Values in messages

How the messages of this library show a value: `Value.quoted` shows its kind, strings in quotes included, and
`Value.display` is the same with the text of a string as it is. An integer is shown by its numeral, which must not be
too long (`Value.isShowable`).
-/

namespace LiquidationDrill

namespace Value

mutual

/-- A value with its strings in quotes. -/
def quoted : Value → Text
  | null => "None"
  | bool true => "True"
  | bool false => "False"
  | number n => n.text
  | string t => t.quoted
  | bytes bs => Text.quotedBytes bs
  | array items => "[" ++ quotedItems items ++ "]"
  | object members => "\x7b" ++ quotedMembers members ++ "\x7d"

/-- Values with commas between them. -/
def quotedItems : List Value → Text
  | [] => []
  | [x] => quoted x
  | x :: xs => quoted x ++ ", " ++ quotedItems xs

/-- Members with commas between them. -/
def quotedMembers : List (Text × Value) → Text
  | [] => []
  | [(name, x)] => name.quoted ++ ": " ++ quoted x
  | (name, x) :: xs => name.quoted ++ ": " ++ quoted x ++ ", " ++ quotedMembers xs

end

/-- The kind of a value. -/
def kind : Value → Text
  | null => "NoneType"
  | bool _ => "bool"
  | number (.int _) => "int"
  | number (.float _) => "float"
  | string _ => "str"
  | bytes _ => "bytes"
  | array _ => "list"
  | object _ => "dict"

/-- A value as text: a string is its own text. -/
def display : Value → Text
  | string t => t
  | x => x.quoted

mutual

/-- No integer in a value has too long a numeral. -/
def isShowable : Value → Bool
  | number (.int n) => Double.decimalLength n.natAbs ≤ Text.maxDigits
  | array items => itemsAreShowable items
  | object members => membersAreShowable members
  | _ => true

/-- All values can be shown. -/
def itemsAreShowable : List Value → Bool
  | [] => true
  | x :: xs => isShowable x && itemsAreShowable xs

/-- The values of all members can be shown. -/
def membersAreShowable : List (Text × Value) → Bool
  | [] => true
  | (_, x) :: xs => isShowable x && membersAreShowable xs

end

end Value

end LiquidationDrill

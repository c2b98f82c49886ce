import LiquidationDrill.Json.Reader
import LiquidationDrill.Proofs.Number.Nearest
import LiquidationDrill.Proofs.Text.Rows

/-!
# The grammar of JSON

What texts spell which values, without a reader: `Json.Spells` is RFC 8259 with the names `NaN`, `Infinity` and
`-Infinity` beside the numbers. A text spells a value with white space around it, so the relation is that of whole
texts and of the items of arrays and the members of objects at once.

- `SpellsChars`, `SpellsString`: strings, where two escapes of a surrogate pair are one code point;
- `SpellsNumber`: integers, and doubles for what has a fraction or an exponent;
- `settled`: the members of an object, of which the last one counts where a name is repeated;
- `Spells`: values.
-/

namespace LiquidationDrill.Json

/-- White space. -/
def IsWhite (t : Text) : Prop := ∀ c ∈ t, c = ' ' ∨ c = '\t' ∨ c = '\n' ∨ c = '\r'

/-! ## Strings -/

/-- What stands for a code point after a backslash. -/
def letters : List (CodePoint × CodePoint) :=
  [('"', '"'), ('\\', '\\'), ('/', '/'), ('b', .ofNat 0x08), ('f', .ofNat 0x0C), ('n', .ofNat 0x0A),
   ('r', .ofNat 0x0D), ('t', .ofNat 0x09)]

/-- A backslash, the letter for units, and four hexadecimal digits of a number. -/
def SpellsUnit (t : Text) (n : Nat) : Prop :=
  ∃ (a b c d : CodePoint) (i j k l : Nat), t = [.ofChar '\\', .ofChar 'u', a, b, c, d] ∧ a.hex? = some i ∧
    b.hex? = some j ∧ c.hex? = some k ∧ d.hex? = some l ∧ n = 0x1000 * i + 0x100 * j + 0x10 * k + l

/-- The number of the first half of a surrogate pair. -/
def IsHighHalf (n : Nat) : Prop := 0xD800 ≤ n ∧ n ≤ 0xDBFF

/-- The number of the second half of a surrogate pair. -/
def IsLowHalf (n : Nat) : Prop := 0xDC00 ≤ n ∧ n ≤ 0xDFFF

/-- The text begins with the escape of a second half. -/
def BeginsWithLowHalf (t : Text) : Prop := ∃ unit n rest, t = unit ++ rest ∧ SpellsUnit unit n ∧ IsLowHalf n

/-- The inside of a string. A half of a surrogate pair stands for itself unless the other half goes with it. -/
inductive SpellsChars : Text → Text → Prop
  | nil : SpellsChars [] []
  | plain {c : CodePoint} {t s : Text} :
      c ≠ '"' → c ≠ '\\' → 0x20 ≤ c.val → SpellsChars t s → SpellsChars (c :: t) (c :: s)
  | letter {e c : CodePoint} {t s : Text} : (e, c) ∈ letters → SpellsChars t s → SpellsChars ('\\' :: e :: t) (c :: s)
  | unit {unit t s : Text} {c : CodePoint} : SpellsUnit unit c.val → ¬(IsHighHalf c.val ∧ BeginsWithLowHalf t) →
      SpellsChars t s → SpellsChars (unit ++ t) (c :: s)
  | pair {high low t s : Text} {m n : Nat} {c : CodePoint} : SpellsUnit high m → IsHighHalf m → SpellsUnit low n →
      IsLowHalf n → c.val = 0x10000 + 0x400 * (m - 0xD800) + (n - 0xDC00) → SpellsChars t s →
        SpellsChars (high ++ (low ++ t)) (c :: s)

/-- A string in quotes. -/
def SpellsString (t s : Text) : Prop := ∃ inside, t = .ofChar '"' :: (inside ++ [.ofChar '"']) ∧ SpellsChars inside s

/-! ## Numbers -/

/-- The minus of a negative number. -/
def minusSign (negative : Bool) : Text := if negative then ['-'] else []

/-- A number of the given sign. -/
def signed (negative : Bool) (n : Nat) : Int := if negative then -n else n

/-- The digits before the point: a zero alone, or digits of which the first is none. -/
def IsWhole (t : Text) : Prop := t = [.ofChar '0'] ∨ Text.IsRow CodePoint.isDigit t ∧ t.head? ≠ some (.ofChar '0')

/-- A fraction, if there is one, and its digits. -/
inductive SpellsFraction : Text → Text → Prop
  | absent : SpellsFraction [] []
  | digits {ds : Text} : Text.IsRow CodePoint.isDigit ds → SpellsFraction ('.' :: ds) ds

/-- The sign of an exponent, which may be left out where it is a plus. -/
inductive SpellsSign : Text → Bool → Prop
  | absent : SpellsSign [] false
  | plus : SpellsSign ['+'] false
  | minus : SpellsSign ['-'] true

/-- An exponent, if there is one, and what it is. -/
inductive SpellsExponent : Text → Int → Prop
  | absent : SpellsExponent [] 0
  | digits {mark : CodePoint} {sign ds : Text} {negative : Bool} : mark = 'e' ∨ mark = 'E' → SpellsSign sign negative →
      Text.IsRow CodePoint.isDigit ds → SpellsExponent (mark :: (sign ++ ds)) (signed negative (ofDigits ds))

/-- A number: an integer, or with a fraction or an exponent the double nearest to the decimal. -/
inductive SpellsNumber : Text → Number → Prop
  | int {negative : Bool} {whole : Text} :
      IsWhole whole → SpellsNumber (minusSign negative ++ whole) (.int (signed negative (ofDigits whole)))
  | float {negative : Bool} {whole fraction exponent ds : Text} {e : Int} {x : Double} : IsWhole whole →
      SpellsFraction fraction ds → SpellsExponent exponent e → fraction ++ exponent ≠ [] →
        x.IsNearest negative (ofDigits (whole ++ ds) * 10 ^ (e - ds.length)) →
          SpellsNumber (minusSign negative ++ (whole ++ (fraction ++ exponent))) (.float x)

/-! ## Values -/

/-- A member of an object as it is written: a label, a colon, and the text of a value. -/
structure Member where
  label : Text
  name : Text
  body : Text
  value : Value

namespace Member

/-- The text of a member. -/
def text (member : Member) : Text := member.label ++ .ofChar ':' :: member.body

/-- The label is the name in quotes, with white space around it. -/
def IsLabelled (member : Member) : Prop :=
  ∃ before string after, member.label = before ++ (string ++ after) ∧ IsWhite before ∧
    SpellsString string member.name ∧ IsWhite after

/-- The name with the value. -/
def named (member : Member) : Text × Value := (member.name, member.value)

end Member

/-- The members of an object that is written so: every name where it first appears, with its last value. -/
def settled (written : List (Text × Value)) : Value.Members :=
  (written.map Prod.fst).eraseDups.map fun name => (name, (Value.Members.get? written.reverse name).getD .null)

/-- The text spells the value. -/
inductive Spells : Text → Value → Prop
  | spaced {before t after : Text} {x : Value} :
      IsWhite before → Spells t x → IsWhite after → Spells (before ++ (t ++ after)) x
  | null : Spells "null" .null
  | true : Spells "true" (.bool true)
  | false : Spells "false" (.bool false)
  | nan : Spells "NaN" (.number (.float (.nan 0)))
  | infinity : Spells "Infinity" (.number (.float (.infinity false)))
  | negativeInfinity : Spells "-Infinity" (.number (.float (.infinity true)))
  | number {t : Text} {n : Number} : SpellsNumber t n → Spells t (.number n)
  | string {t s : Text} : SpellsString t s → Spells t (.string s)
  | emptyArray {space : Text} : IsWhite space → Spells ('[' :: (space ++ [.ofChar ']'])) (.array [])
  | array {items : List (Text × Value)} : items ≠ [] → (∀ item ∈ items, Spells item.1 item.2) →
      Spells ('[' :: (Text.join [','] (items.map Prod.fst) ++ [.ofChar ']'])) (.array (items.map Prod.snd))
  | emptyObject {space : Text} : IsWhite space → Spells ('\x7b' :: (space ++ [.ofChar '\x7d'])) (.object [])
  | object {members : List Member} : members ≠ [] → (∀ member ∈ members, member.IsLabelled) →
      (∀ member ∈ members, Spells member.body member.value) →
        Spells ('\x7b' :: (Text.join [','] (members.map Member.text) ++ [.ofChar '\x7d']))
          (.object (settled (members.map Member.named)))

end LiquidationDrill.Json

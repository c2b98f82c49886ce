import LiquidationDrill.Value.Basic

/-!
# Reading JSON

The reader takes what RFC 8259 calls a JSON text, and the names `NaN`, `Infinity` and `-Infinity` for doubles. It
reads from left to right and stops at the first fault.

- `Json.Fault`: why a text is no JSON, or which `Json.Limit` it exceeds;
- `Json.stringBody`, `Json.numeral`: the tokens with a structure of their own;
- `Json.value`: reads one value and returns what follows it;
- `Json.read`: reads a text that is one value with white space around it, nested at most `Json.maxDepth` deep.

Every reader returns the rest of the text.
-/

namespace LiquidationDrill

namespace Json

/-- What exceeds a limit of this reader. -/
inductive Limit where
  /-- An integer of so many digits. -/
  | integerTooLong (digits : Nat)
  /-- An array within too many arrays and objects. -/
  | arrayTooDeep
  /-- An object within too many arrays and objects. -/
  | objectTooDeep
  deriving DecidableEq

/-- Why a text cannot be read. -/
inductive Fault where
  | expectingValue
  | extraData
  | expectingComma
  | expectingColon
  | expectingName
  | unterminatedString
  | controlCharacter
  | escape
  | unicodeEscape
  | byteOrderMark
  /-- The text may be JSON, but it exceeds a limit. -/
  | beyond (limit : Limit)
  deriving DecidableEq

/-! ## White space -/

/-- The white space of JSON. -/
def isSpace (c : CodePoint) : Bool := c = ' ' || c = '\t' || c = '\n' || c = '\r'

/-- The text after its white space. -/
def skipSpace (t : Text) : Text := t.dropWhile isSpace

/-! ## Strings -/

/-- What a backslash and a letter stand for. -/
def escaped? (c : CodePoint) : Option CodePoint :=
  if c = '"' ∨ c = '\\' ∨ c = '/' then some c
  else if c = 'b' then some (CodePoint.ofNat 0x08)
  else if c = 'f' then some (CodePoint.ofNat 0x0C)
  else if c = 'n' then some (CodePoint.ofNat 0x0A)
  else if c = 'r' then some (CodePoint.ofNat 0x0D)
  else if c = 't' then some (CodePoint.ofNat 0x09)
  else none

/-- The unit that four hexadecimal digits spell. -/
def unit? (a b c d : CodePoint) : Option CodePoint :=
  match a.hex?, b.hex?, c.hex?, d.hex? with
  | some a, some b, some c, some d => some (CodePoint.ofNat (((a * 16 + b) * 16 + c) * 16 + d))
  | _, _, _, _ => none

/-- The code point of a surrogate pair. -/
def joined (high low : CodePoint) : CodePoint :=
  CodePoint.ofNat (0x10000 + (high.val - 0xD800) * 0x400 + (low.val - 0xDC00))

/-- Puts a code point before the string that was read. -/
def prepend (c : CodePoint) (result : Except Fault (Text × Text)) : Except Fault (Text × Text) :=
  result.map fun (s, rest) => (c :: s, rest)

/-- Reads a string after its opening quote. A string cannot end right after the digits of an escape. -/
def stringBody : Text → Except Fault (Text × Text)
  | [] => .error .unterminatedString
  | c :: t =>
    if c = '"' then .ok ([], t)
    else if c = '\\' then
      match t with
      | [] => .error .unterminatedString
      | e :: t =>
        if e = 'u' then
          match t with
          | i :: j :: k :: l :: m :: t =>
            match unit? i j k l with
            | none => .error .unicodeEscape
            | some unit =>
              if unit.isHighSurrogate then
                match t with
                | n :: p :: q :: r :: s :: x :: t =>
                  match unit? p q r s with
                  | some low =>
                    if m = '\\' ∧ n = 'u' ∧ low.isLowSurrogate then prepend (joined unit low) (stringBody (x :: t))
                    else prepend unit (stringBody (m :: n :: p :: q :: r :: s :: x :: t))
                  | none => prepend unit (stringBody (m :: n :: p :: q :: r :: s :: x :: t))
                | t => prepend unit (stringBody (m :: t))
              else prepend unit (stringBody (m :: t))
          | _ => .error .unicodeEscape
        else
          match escaped? e with
          | some c => prepend c (stringBody t)
          | none => .error .escape
    else if c.val < 0x20 then .error .controlCharacter
    else prepend c (stringBody t)

/-! ## Numbers -/

/-- The parts of a number: its sign, the digits before and after the point, and the exponent if it has one. -/
structure Numeral where
  negative : Bool
  whole : Text
  fraction : Text
  exponent : Option (Bool × Text)

/-- The digits at the beginning of a text and what follows them. -/
def digits (t : Text) : Text × Text := (t.takeWhile CodePoint.isDigit, t.dropWhile CodePoint.isDigit)

/-- The digits before the point: a zero alone, or digits that begin with none. -/
def wholePart? : Text → Option (Text × Text)
  | [] => none
  | c :: t => if c = '0' then some ([c], t) else if c.isDigit then some (digits (c :: t)) else none

/-- The digits after the point, if a point with a digit after it is there. -/
def fractionPart : Text → Text × Text
  | c :: d :: t => if c = '.' ∧ d.isDigit then digits (d :: t) else ([], c :: d :: t)
  | t => ([], t)

/-- A sign: whether it is a minus. -/
def sign : Text → Bool × Text
  | c :: t => if c = '-' then (true, t) else if c = '+' then (false, t) else (false, c :: t)
  | [] => (false, [])

/-- The exponent, if a mark with digits after it is there. -/
def exponentPart : Text → Option (Bool × Text) × Text
  | c :: t =>
    if c = 'e' ∨ c = 'E' then
      let (negative, t') := sign t
      match digits t' with
      | ([], _) => (none, c :: t)
      | (ds, rest) => (some (negative, ds), rest)
    else (none, c :: t)
  | [] => (none, [])

/-- A minus at the beginning of a number. -/
def minus : Text → Bool × Text
  | c :: t => if c = '-' then (true, t) else (false, c :: t)
  | [] => (false, [])

/-- The longest number with which the text begins. -/
def numeral? (t : Text) : Option (Numeral × Text) :=
  let (negative, t) := minus t
  match wholePart? t with
  | none => none
  | some (whole, t) =>
    let (fraction, t) := fractionPart t
    let (exponent, t) := exponentPart t
    some (⟨negative, whole, fraction, exponent⟩, t)

/-- The number that a row of digits of ASCII spells. -/
def ofDigits (ds : Text) : Nat := Text.ofDigits (ds.map CodePoint.digit)

/-- A number with a fraction or an exponent is a double, any other an integer. -/
def Numeral.number (n : Numeral) : Except Fault Number :=
  match n.fraction, n.exponent with
  | [], none =>
    if Text.maxDigits < n.whole.length then .error (.beyond (.integerTooLong n.whole.length))
    else .ok (.int (if n.negative then -(ofDigits n.whole : Int) else ofDigits n.whole))
  | fraction, exponent =>
    let shift : Int :=
      match exponent with
      | none => 0
      | some (negative, ds) => if negative then -(ofDigits ds : Int) else ofDigits ds
    .ok (.float (.ofDecimal n.negative (ofDigits (n.whole ++ fraction)) (shift - fraction.length)))

/-! ## Values -/

/-- The values that have names. -/
def names : List (Text × Value) :=
  [("null", .null), ("true", .bool true), ("false", .bool false), ("NaN", .number (.float (.nan 0))),
   ("Infinity", .number (.float (.infinity false))), ("-Infinity", .number (.float (.infinity true)))]

/-- The named value with which the text begins. -/
def named? (t : Text) : Option (Value × Text) :=
  names.findSome? fun (name, x) => (t.dropStart? name).map fun rest => (x, rest)

/-- Reads a value that has no parts. -/
def scalar (t : Text) : Except Fault (Value × Text) :=
  match named? t with
  | some result => .ok result
  | none =>
    match numeral? t with
    | none => .error .expectingValue
    | some (n, rest) => n.number.map fun x => (.number x, rest)

/-- Reads the items of an array from the first one on, and the closing bracket. -/
def items (readValue : Text → Except Fault (Value × Text)) :
    (fuel : Nat) → Text → Except Fault (List Value × Text)
  | 0, _ => .error .expectingValue
  | fuel + 1, t => do
    let (x, t) ← readValue t
    match skipSpace t with
    | [] => .error .expectingComma
    | c :: t =>
      if c = ']' then .ok ([x], t)
      else if c = ',' then do
        let (xs, t) ← items readValue fuel (skipSpace t)
        .ok (x :: xs, t)
      else .error .expectingComma

/-- Reads the name of a member, with the colon after it. -/
def memberName : Text → Except Fault (Text × Text)
  | [] => .error .expectingName
  | c :: t =>
    if c = '"' then do
      let (name, t) ← stringBody t
      match skipSpace t with
      | [] => .error .expectingColon
      | c :: t => if c = ':' then .ok (name, skipSpace t) else .error .expectingColon
    else .error .expectingName

/-- Reads the members of an object from the first one on, and the closing brace. -/
def members (readValue : Text → Except Fault (Value × Text)) :
    (fuel : Nat) → Text → Except Fault (List (Text × Value) × Text)
  | 0, _ => .error .expectingName
  | fuel + 1, t => do
    let (name, t) ← memberName t
    let (x, t) ← readValue t
    match skipSpace t with
    | [] => .error .expectingComma
    | c :: t =>
      if c = '\x7d' then .ok ([(name, x)], t)
      else if c = ',' then do
        let (xs, t) ← members readValue fuel (skipSpace t)
        .ok ((name, x) :: xs, t)
      else .error .expectingComma

/-- Reads one value in which arrays and objects are nested at most `depth` deep. -/
def value (depth : Nat) : Text → Except Fault (Value × Text)
  | [] => .error .expectingValue
  | c :: t =>
    if c = '"' then (stringBody t).map fun (s, rest) => (.string s, rest)
    else if c = '[' then
      match depth, skipSpace t with
      | 0, _ => .error (.beyond .arrayTooDeep)
      | _ + 1, [] => .error .expectingValue
      | depth + 1, d :: t' =>
        if d = ']' then .ok (.array [], t')
        else (items (value depth) t.length (d :: t')).map fun (xs, rest) => (.array xs, rest)
    else if c = '\x7b' then
      match depth, skipSpace t with
      | 0, _ => .error (.beyond .objectTooDeep)
      | _ + 1, [] => .error .expectingName
      | depth + 1, d :: t' =>
        if d = '\x7d' then .ok (.object [], t')
        else
          (members (value depth) t.length (d :: t')).map fun (xs, rest) =>
            (.object (Value.Members.ofWritten xs), rest)
    else scalar (c :: t)

/-- How deep arrays and objects may be nested. -/
def maxDepth : Nat := 990

/-- The byte order mark. -/
def byteOrderMark : CodePoint := CodePoint.ofNat 0xFEFF

/-- Reads a text that is one value with white space around it. -/
def read (t : Text) : Except Fault Value :=
  if t.head? = some byteOrderMark then .error .byteOrderMark
  else do
    let (x, rest) ← value maxDepth (skipSpace t)
    if (skipSpace rest).isEmpty then .ok x else .error .extraData

/-! ## Wording -/

/-- The wording of a limit. -/
def Limit.message : Limit → Text
  | .integerTooLong digits =>
    "Exceeds the limit (4300 digits) for integer string conversion: value has " ++ Text.ofNat digits ++
      " digits; use sys.set_int_max_str_digits() to increase the limit"
  | .arrayTooDeep => "maximum recursion depth exceeded while decoding a JSON array from a unicode string"
  | .objectTooDeep => "maximum recursion depth exceeded while decoding a JSON object from a unicode string"

/-- The name of a fault. -/
def Fault.message : Fault → Text
  | .expectingValue => "Expecting value"
  | .extraData => "Extra data"
  | .expectingComma => "Expecting ',' delimiter"
  | .expectingColon => "Expecting ':' delimiter"
  | .expectingName => "Expecting property name enclosed in double quotes"
  | .unterminatedString => "Unterminated string starting at"
  | .controlCharacter => "Invalid control character at"
  | .escape => "Invalid \\escape"
  | .unicodeEscape => "Invalid \\uXXXX escape"
  | .byteOrderMark => "Unexpected UTF-8 BOM (decode using utf-8-sig)"
  | .beyond limit => limit.message

end Json

end LiquidationDrill

import LiquidationDrill.Number.Arithmetic
import LiquidationDrill.Value.Display

/-!
# Arithmetic of values

Amounts come from contracts as values. Numbers are computed with, among which false and true are zero and one. Texts,
bytes and arrays can be joined to others of their kind and repeated a number of times.

- `Value.add`, `Value.mul`, `Value.floorDiv`, `Value.mulFloorDiv`, `Value.tenTo`: the operations, or the `Value.Fault`
  that there is none;
- `Value.integer`: the integer that a value is;
- `Value.shown`: the value as text, if it can be shown.
-/

namespace LiquidationDrill

namespace Value

/-- Why a value cannot be computed with. -/
inductive Fault where
  /-- An operation is not for values of these kinds. -/
  | misfit (operation : Text) (left right : Value)
  /-- A sequence is joined to a value of another kind. -/
  | unjoinable (sequence other : Value)
  /-- A sequence is to be repeated as often as a value that is no integer. -/
  | notCount (count : Value)
  /-- A number of repetitions is beyond all positions of a sequence. -/
  | countTooLarge
  /-- A repeated sequence would have more items than there are positions. -/
  | repeatedTooLong (items : Text)
  /-- A repeated sequence does not fit into memory. -/
  | outOfMemory
  /-- A value is no integer. -/
  | notInteger (value : Value)
  | number (fault : Number.Fault)
  /-- The numeral of an integer would be too long. -/
  | numeralTooLong

/-- The wording for a sequence that is joined to a value of another kind. -/
def unjoinableMessage (sequence other : Value) : Text :=
  match sequence with
  | bytes _ => "can't concat " ++ other.kind ++ " to bytes"
  | _ => "can only concatenate " ++ sequence.kind ++ " (not \"" ++ other.kind ++ "\") to " ++ sequence.kind

/-- The wording of a fault. -/
def Fault.message : Fault → Text
  | misfit operation left right =>
    "unsupported operand type(s) for " ++ operation ++ ": '" ++ left.kind ++ "' and '" ++ right.kind ++ "'"
  | unjoinable sequence other => unjoinableMessage sequence other
  | notCount count => "can't multiply sequence by non-int of type '" ++ count.kind ++ "'"
  | countTooLarge => "cannot fit 'int' into an index-sized integer"
  | repeatedTooLong items => "repeated " ++ items ++ " too long"
  | outOfMemory => []
  | notInteger value => "'" ++ value.kind ++ "' object cannot be interpreted as an integer"
  | number fault => fault.message
  | numeralTooLong =>
    "Exceeds the limit (4300 digits) for integer string conversion; " ++
      "use sys.set_int_max_str_digits() to increase the limit"

/-! ## Sequences -/

/-- The greatest position in a sequence. -/
def maxPosition : Nat := (1 <<< 63) - 1

/-- The most items that a sequence can have. -/
def maxItems : Nat := 1 <<< 33

/-- The most items of a repeated sequence whose items are needed. -/
def maxBuilt : Nat := 1 <<< 27

/-- The value is a text, bytes or an array. -/
def isSequence : Value → Bool
  | string _ | bytes _ | array _ => true
  | _ => false

/-- The number of items of a text, bytes or an array. -/
def itemCount : Value → Nat
  | string t => t.length
  | bytes bs => bs.length
  | array items => items.length
  | _ => 0

/-- The fault of a repeated sequence with more items than there are positions. -/
def tooLong : Value → Fault
  | string _ => .repeatedTooLong "string is"
  | bytes _ => .repeatedTooLong "bytes are"
  | _ => .outOfMemory

/-- How often a sequence is repeated: as often as a value, which has to be an integer between two positions, and not at
all if it is negative. -/
def repetitions (sequence count : Value) : Except Fault Nat :=
  match count.number? with
  | some (.int n) =>
    if n < -(maxPosition : Int) - 1 ∨ maxPosition < n then .error .countTooLarge
    else if maxPosition < sequence.itemCount * n.toNat then .error sequence.tooLong
    else if maxItems < sequence.itemCount * n.toNat then .error .outOfMemory
    else .ok n.toNat
  | _ => .error (.notCount count)

/-- Items over and over again. -/
def repeated {α : Type} (items : List α) (count : Nat) : List α :=
  if items.isEmpty then [] else (List.replicate count items).flatten

/-- A sequence, repeated as often as a value. -/
def times (sequence count : Value) : Except Fault Value := do
  let n ← sequence.repetitions count
  if maxBuilt < sequence.itemCount * n then throw .outOfMemory
  match sequence with
  | string t => return .string (repeated t n)
  | bytes bs => return .bytes (repeated bs n)
  | array items => return .array (repeated items n)
  | x => return x

/-- The sequence and the number among two factors; of two sequences the second one would have to be the number. -/
def repetition (x y : Value) : Except Fault (Value × Value) :=
  if x.isSequence then .ok (x, y) else if y.isSequence then .ok (y, x) else .error (.misfit "*" x y)

/-! ## The operations -/

/-- A number as a value. -/
def ofNumber (result : Except Number.Fault Number) : Except Fault Value :=
  match result with
  | .ok n => .ok (number n)
  | .error fault => .error (.number fault)

/-- A sum, or two sequences one after the other. -/
def add (x y : Value) : Except Fault Value :=
  match x.number?, y.number? with
  | some m, some n => ofNumber (m.add n)
  | _, _ =>
    match x, y with
    | string s, string t => .ok (.string (s ++ t))
    | bytes bs, bytes cs => .ok (.bytes (bs ++ cs))
    | array xs, array ys => .ok (.array (xs ++ ys))
    | x, y => .error (if x.isSequence then .unjoinable x y else .misfit "+" x y)

/-- A product, or a sequence that is repeated. -/
def mul (x y : Value) : Except Fault Value :=
  match x.number?, y.number? with
  | some m, some n => ofNumber (m.mul n)
  | _, _ => repetition x y >>= fun (sequence, count) => sequence.times count

/-- A quotient by a positive `d`, rounded down. -/
def floorDiv (x : Value) (d : Nat) : Except Fault Value :=
  match x.number? with
  | some n => .ok (number (n.floorDiv d))
  | none => .error (.misfit "//" x (int d))

/-- A product, divided by a positive `d` and rounded down. A repeated sequence has no quotient, so that it is not even
built. -/
def mulFloorDiv (x y : Value) (d : Nat) : Except Fault Value :=
  match x.number?, y.number? with
  | some m, some n => ofNumber (m.mul n) >>= (floorDiv · d)
  | _, _ => do
    let (sequence, count) ← repetition x y
    let _ ← sequence.repetitions count
    sequence.floorDiv d

/-- Ten to the power of a value. -/
def tenTo (x : Value) : Except Fault Value :=
  match x.number? with
  | some n => ofNumber n.tenTo
  | none => .error (.misfit "** or pow()" (int 10) x)

/-- The integer that a value is. -/
def integer (x : Value) : Except Fault Int :=
  match x.number? with
  | some (.int n) => .ok n
  | _ => .error (.notInteger x)

/-- A value as text. -/
def shown (x : Value) : Except Fault Text := if x.isShowable then .ok x.display else .error .numeralTooLong

/-- Integers have an integer for a product. -/
theorem mul_int (m n : Int) : mul (int m) (int n) = .ok (int (m * n)) := rfl

/-- Ten to a natural power is an integer. -/
theorem tenTo_natCast (n : Nat) : tenTo (int n) = .ok (int (Nat.pow 10 n)) := by
  simp [tenTo, number?, int, Number.tenTo_natCast, ofNumber]

end Value

end LiquidationDrill

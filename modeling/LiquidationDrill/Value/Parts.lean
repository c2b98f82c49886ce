import LiquidationDrill.Value.Key

/-!
# The parts of values

A value that a contract or a configuration holds may be taken apart: into its items, into a given number of parts, or
into the entries of a table.

- `Value.items?`: the items of an array, the characters of a text, the numbers of bytes, the names of an object;
- `Value.pair`, `Value.triple`: the parts of a value that has to have so many;
- `Value.entries`: the entries of an object, or those that a list of pairs stands for;
- `Value.Misshapen`: why there are none, with `Misshapen.message`, the wording.
-/

namespace LiquidationDrill

namespace Value

/-- Why a value cannot be taken apart. -/
inductive Misshapen where
  /-- A value without items stands for a list. -/
  | noItems (value : Value)
  | tooFewParts (wanted found : Nat)
  | tooManyParts (wanted : Nat)
  /-- A value without items stands for an entry. -/
  | noEntry (position : Nat)
  /-- An entry has other items than a name and a value. -/
  | entryLength (position length : Nat)
  /-- A name can be no key. -/
  | unhashable (fault : Unhashable)

/-- The wording. -/
def Misshapen.message : Misshapen → Text
  | noItems value => "'" ++ value.kind ++ "' object is not iterable"
  | tooFewParts wanted found =>
    "not enough values to unpack (expected " ++ Text.ofNat wanted ++ ", got " ++ Text.ofNat found ++ ")"
  | tooManyParts wanted => "too many values to unpack (expected " ++ Text.ofNat wanted ++ ")"
  | noEntry position =>
    "cannot convert dictionary update sequence element #" ++ Text.ofNat position ++ " to a sequence"
  | entryLength position length =>
    "dictionary update sequence element #" ++ Text.ofNat position ++ " has length " ++ Text.ofNat length ++
      "; 2 is required"
  | unhashable fault => fault.message

/-- The items of a value that has some. -/
def items? : Value → Option (List Value)
  | string t => some (t.map fun c => .string [c])
  | bytes bs => some (bs.map fun b => .int b.toNat)
  | array items => some items
  | object members => some (members.map fun (name, _) => .string name)
  | null | bool _ | number _ => none

/-- The items of a value that has to have some. -/
def items (x : Value) : Except Misshapen (List Value) :=
  match x.items? with
  | some items => .ok items
  | none => .error (.noItems x)

/-! ## A number of parts -/

/-- Why a number of items is not the number of parts that is wanted. -/
def wrongParts (wanted found : Nat) : Misshapen :=
  if found < wanted then .tooFewParts wanted found else .tooManyParts wanted

/-- The two parts of a value, which are its items. -/
def pair (x : Value) : Except Misshapen (Value × Value) := do
  match ← x.items with
  | [a, b] => return (a, b)
  | items => throw (wrongParts 2 items.length)

/-- The three parts of a value, which are its items. -/
def triple (x : Value) : Except Misshapen (Value × Value × Value) := do
  match ← x.items with
  | [a, b, c] => return (a, b, c)
  | items => throw (wrongParts 3 items.length)

/-! ## Entries -/

/-- An entry of a table: its key, the name it was first given under, and its value. -/
structure Entry where
  key : Key
  name : Value
  value : Value

/-- Gives a key a value, at its place if it has one and at the end otherwise. The name of a key stays. -/
def Entry.put (entries : List Entry) (entry : Entry) : List Entry :=
  match entries with
  | [] => [entry]
  | old :: rest =>
    if old.key = entry.key then { old with value := entry.value } :: rest else old :: Entry.put rest entry

/-- The entry that a pair stands for, which is at a position among others. -/
def entry (position : Nat) (x : Value) : Except Misshapen Entry :=
  match x.items? with
  | some [name, value] =>
    match name.key with
    | .ok key => .ok ⟨key, name, value⟩
    | .error fault => .error (.unhashable fault)
  | some items => .error (.entryLength position items.length)
  | none => .error (.noEntry position)

/-- The entries that pairs stand for, the first pair being at a position; they come after the entries so far. -/
def entriesFrom (position : Nat) (entries : List Entry) : List Value → Except Misshapen (List Entry)
  | [] => .ok entries
  | x :: xs => do
    let entry ← x.entry position
    entriesFrom (position + 1) (Entry.put entries entry) xs

/-- The entries of a value: the members of an object, or those that a list of pairs stands for. -/
def entries : Value → Except Misshapen (List Entry)
  | object members => .ok (members.map fun (name, value) => ⟨.text name, .string name, value⟩)
  | x => x.items >>= entriesFrom 0 []

end Value

end LiquidationDrill

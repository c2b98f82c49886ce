import LiquidationDrill.Log.Fault
import LiquidationDrill.Text.Word

/-!
# Transaction hashes

A record shows a transaction by its hash alone, or by a description in which the hash follows `tx_hash:` and white
space.

- `Log.isHash`: `0x` and hexadecimal digits;
- `Log.findHash?`: the word after the first `tx_hash:` that white space and a word follow;
- `Log.txHash`: the hash in a value.
-/

namespace LiquidationDrill.Log

/-- `0x` and at least one hexadecimal digit. -/
def isHash (t : Text) : Bool :=
  match t.dropStart? "0x" with
  | some digits => !digits.isEmpty && digits.all CodePoint.isHex
  | none => false

/-- Stands before a hash in the description of a transaction. -/
def hashMark : Text := "tx_hash:"

/-- The word that follows the mark and white space at the beginning of a text. -/
def hashAt? (t : Text) : Option Text :=
  match t.dropStart? hashMark with
  | none => none
  | some [] => none
  | some (c :: rest) =>
    let word := (rest.dropWhile CodePoint.isBlank).takeWhile CodePoint.isWord
    if c.isBlank && !word.isEmpty then some word else none

/-- The word after the first mark that white space and a word follow. -/
def findHash? : Text → Option Text
  | [] => none
  | c :: t => (hashAt? (c :: t)).or (findHash? t)

/-- The hash in the description of a transaction. -/
def describedHash (value : Value) : Except Fault Text :=
  match findHash? value.display with
  | some hash => .ok hash
  | none => .error (.malformed (.unreadableHash value) none)

/-- The hash in a value that is a hash or describes a transaction. -/
def txHash (value : Value) : Except Fault Text :=
  if isHash value.display then .ok value.display else describedHash value

end LiquidationDrill.Log

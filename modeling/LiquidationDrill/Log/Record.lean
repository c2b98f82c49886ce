import LiquidationDrill.Log.Level
import LiquidationDrill.Log.TxHash
import LiquidationDrill.Log.VaultId
import LiquidationDrill.Value.Key

/-!
# Log records

A record is one event of the log: its level, its fields, where it comes from, and the line it was read from.

- `Log.Record.ofLine`: the record of a line, or what is wrong with the line;
- `Record.message`, `Record.vaultId?`, `Record.txHash?`: what the checks look at;
- `Record.same`, `Record.key`, `Record.setSize`: records as members of a set, where the text of the line they were read
  from does not count.
-/

namespace LiquidationDrill.Log

/-- One event of the log. -/
structure Record where
  level : Level
  fields : Value.Members
  lineNumber : Int
  target : Value
  timestamp : Value
  spans : List Value.Members
  /-- The line that the record was read from. -/
  raw : Text

/-- The level of a name. -/
def levelNamed (name : Value) : Except Fault Level :=
  match name with
  | .string t =>
    match Level.ofName? t with
    | some level => .ok level
    | none => .error (.unknownLevelName name)
  | _ => .error (.unknownLevelName name)

namespace Record

/-! ## Reading a line -/

/-- The level that a value names: its text in upper case. -/
def levelOf? (value : Value) : Option Level := Level.ofName? value.display.upper

/-- The spans of an event: those that are objects. A text and an object hold none. -/
def spansOf : Value → Except Fault (List Value.Members)
  | .array items => .ok (items.filterMap Value.members?)
  | value => if value.isTruthy && value.numeric?.isSome then .error (.spansNotIterable value) else .ok []

/-- The record of an event. The faults are looked for in the order of the level, the fields and the spans. -/
def ofEvent (event : Value) (lineNumber : Int) (line : Text) : Except Fault Record :=
  let malformed {α : Type} (reason : Reason) : Except Fault α :=
    .error (.malformed reason (some ⟨lineNumber, line⟩))
  match event.members? with
  | none => malformed .notObject
  | some members =>
    match members.get? "level" with
    | none => malformed .missingLevel
    | some value =>
      match levelOf? value with
      | none => malformed (.unknownLevel value)
      | some level =>
        match (members.get? "fields").bind Value.members? with
        | none => malformed .missingFields
        | some fields =>
          (spansOf ((members.get? "spans").getD .null)).map fun spans =>
            { level, fields, lineNumber, spans
              target := (members.get? "target").getD .null
              timestamp := (members.get? "timestamp").getD .null
              raw := line }

/-- The record of a line. -/
def ofLine (line : Text) (lineNumber : Int) : Except Fault Record :=
  match Json.read line with
  | .ok event => ofEvent event lineNumber line
  | .error (.beyond limit) => .error (.beyond limit)
  | .error fault => .error (.malformed (.notJson fault) (some ⟨lineNumber, line⟩))

/-! ## What the checks look at -/

/-- A field, null where the record has none of this name. -/
def field (record : Record) (name : Text) : Value := (record.fields.get? name).getD .null

/-- The message of a record. -/
def message (record : Record) : Value := record.field "message"

/-- The error that a record reports. -/
def error (record : Record) : Value := record.field "error"

/-- The vault that a record is about, in plain form. -/
def vaultId? (record : Record) : Option Text :=
  match record.field "vault_id" with
  | .null => none
  | value => some (plainVaultId value)

/-- The transaction that a record is about. -/
def txHash? (record : Record) : Except Fault (Option Text) :=
  match record.field "tx_hash" with
  | .null => .ok none
  | value => (Log.txHash value).map some

/-- The record has this message; null is the message of a record without one. -/
def carries (record : Record) (message : Value) : Bool := record.message.same message

/-- The record has this message, and this level if one is given. -/
def hasMessage (record : Record) (message : Value) (level : Option Level) : Bool :=
  level.all (record.level = ·) && record.carries message

/-- The same for the name of a level, which need not be one; null stands for any level. -/
def hasMessageAt (record : Record) (message levelName : Value) : Except Fault Bool :=
  match levelName with
  | .null => .ok (record.hasMessage message none)
  | name => (levelNamed name).map fun level => record.hasMessage message (some level)

/-! ## Sets of records -/

/-- Two records are the same, wherever they were written. -/
def same (a b : Record) : Bool :=
  a.level = b.level && (Value.object a.fields).same (.object b.fields) && a.lineNumber = b.lineNumber &&
    a.target.same b.target && a.timestamp.same b.timestamp &&
    Value.sameItems (a.spans.map .object) (b.spans.map .object)

/-- What records are told apart by first: the level, the line number, the target and the timestamp. -/
structure Key where
  level : Level
  lineNumber : Int
  target : Value.Key
  timestamp : Value.Key
  deriving DecidableEq

/-- What a record is told apart by first, where its target and its timestamp can be keys. -/
def key (record : Record) : Except Value.Unhashable Key := do
  let target ← record.target.key
  let timestamp ← record.timestamp.key
  return { level := record.level, lineNumber := record.lineNumber, target, timestamp }

/-- The number of members of the set of two records: records of different keys are two, and so are those of one key
that are not the same. -/
def setSize (a b : Record) : Except Value.Unhashable Nat := do
  let k ← a.key
  let l ← b.key
  return if k = l ∧ a.same b then 1 else 2

end Record

end LiquidationDrill.Log

import LiquidationDrill.Log.Record
import LiquidationDrill.Text.Lines

/-!
# Logs

A log is a text with one event on each line that is not blank. Lines are numbered from one, blank ones included.

- `Log.entries`: the lines that hold events;
- `Log.records`: all records, or the first fault;
- `Log.Cursor`: reads the records one at a time and ends after a fault;
- `Log.withMessage`, `Log.txHashes`, `Log.countBuyOrders`: what a drill asks a log.
-/

namespace LiquidationDrill.Log

/-- The lines that are not blank, with their numbers. -/
def entries (log : Text) : List (Text × Nat) := (log.lines.zipIdx 1).filter fun (line, _) => !line.isBlank

/-- The record of a numbered line. -/
def entryRecord (entry : Text × Nat) : Except Fault Record := Record.ofLine entry.1 entry.2

/-- All records of a log, or the fault of the first line that is none. -/
def records (log : Text) : Except Fault (List Record) := (entries log).mapM entryRecord

/-! ## Reading record by record -/

/-- A reader of a log: the lines it has not read. -/
structure Cursor where
  rest : List (Text × Nat)

/-- A reader at the beginning of a log. -/
def Cursor.start (log : Text) : Cursor := ⟨entries log⟩

/-- The next record or fault, none at the end. Nothing follows a fault. -/
def Cursor.next : Cursor → Option (Except Fault Record) × Cursor
  | ⟨[]⟩ => (none, ⟨[]⟩)
  | ⟨entry :: rest⟩ =>
    match entryRecord entry with
    | .ok record => (some (.ok record), ⟨rest⟩)
    | .error fault => (some (.error fault), ⟨[]⟩)

/-! ## Questions to a log -/

/-- The records with a message at the level of a name, at any level if the name is null. The name is looked at only
where there is a record. -/
def withMessage (log : Text) (message levelName : Value) : Except Fault (List Record) := do
  let records ← records log
  records.filterM fun record => record.hasMessageAt message levelName

/-- The message of a buy order. -/
def buyOrder : Text := "Submitted buy order"

/-- The hash that a record with this message must have. -/
def Record.requireTxHash (message : Value) (record : Record) : Except Fault Text := do
  match ← record.txHash? with
  | some hash => return hash
  | none => throw (.malformed (.noHash message) (some ⟨record.lineNumber, record.raw⟩))

/-- The transaction hashes of the records with a message. -/
def txHashes (log : Text) (message : Value) : Except Fault (List Text) := do
  let records ← withMessage log message Level.info.name
  records.mapM (Record.requireTxHash message)

/-- The number of records with a message at a level. -/
def count (message : Value) (level : Level) (records : List Record) : Nat :=
  records.countP fun record => record.hasMessage message (some level)

/-- The number of buy orders in a log. -/
def countBuyOrders (log : Text) : Except Fault Nat := (records log).map (count buyOrder .info)

end LiquidationDrill.Log

import LiquidationDrill.Log.Stream

/-!
# Several readers of one log

Readers read a log side by side, each under a name and at its own place. Questions about the whole log may be asked in
between; they move no reader.

- `Log.Query`, `Log.Answer`: what a log is asked, and what it answers;
- `Log.Readers`: the places of the readers, with `Readers.cursor` and `Readers.move`;
- `Readers.perform`: one query; `Readers.answers`: the answers to queries one after the other.
-/

namespace LiquidationDrill.Log

/-- What a log is asked. -/
inductive Query where
  /-- Puts a reader at the beginning of the log. -/
  | start (reader : Text)
  /-- Moves a reader to the next record. -/
  | next (reader : Text)
  | records
  | withMessage (message levelName : Value)
  | txHashes (message : Value)
  | countBuyOrders

/-- What a log answers. -/
inductive Answer where
  | started
  /-- The next record or the fault of its line, none at the end. -/
  | next (result : Option (Except Fault Record))
  | records (result : Except Fault (List Record))
  | hashes (result : Except Fault (List Text))
  | count (result : Except Fault Nat)

/-- The places where readers have been, the latest ones first; a reader is where it was last. -/
abbrev Readers := List (Text × Cursor)

namespace Readers

/-- The place of a reader. One that was never started has nothing left to read. -/
def cursor (readers : Readers) (name : Text) : Cursor := (readers.lookup name).getD ⟨[]⟩

/-- Puts a reader at a place. -/
def move (readers : Readers) (name : Text) (cursor : Cursor) : Readers := (name, cursor) :: readers

/-- A reader is where it was put. -/
theorem cursor_move_self (readers : Readers) (name : Text) (cursor : Cursor) :
    (readers.move name cursor).cursor name = cursor := by simp [move, Readers.cursor]

/-- The other readers stay where they are. -/
theorem cursor_move_of_ne (readers : Readers) {name other : Text} (cursor : Cursor) (h : other ≠ name) :
    (readers.move name cursor).cursor other = readers.cursor other := by
  have hb : (other == name) = false := beq_eq_false_iff_ne.mpr h
  rw [move, Readers.cursor, List.lookup_cons, hb, Readers.cursor]

/-- The answer to a query, and the readers after it. -/
def perform (log : Text) (readers : Readers) : Query → Answer × Readers
  | .start name => (.started, readers.move name (.start log))
  | .next name =>
    let (result, cursor) := (readers.cursor name).next
    (.next result, readers.move name cursor)
  | .records => (.records (Log.records log), readers)
  | .withMessage message levelName => (.records (Log.withMessage log message levelName), readers)
  | .txHashes message => (.hashes (Log.txHashes log message), readers)
  | .countBuyOrders => (.count (Log.countBuyOrders log), readers)

/-- The answers to queries, each asked of the readers that the one before leaves. -/
def answers (log : Text) : Readers → List Query → List Answer
  | _, [] => []
  | readers, query :: queries =>
    let (answer, readers) := readers.perform log query
    answer :: answers log readers queries

end Readers

end LiquidationDrill.Log

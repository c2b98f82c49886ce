import LiquidationDrill.Log.Stream
import LiquidationDrill.Proofs.Result

/-!
# The transaction hashes of a log

The records with a message at a level are picked from all records of the log (`withMessage_name`). There are
transaction hashes iff the log has records and each of those that are picked shows a hash; then they are these hashes,
in order (`txHashes_eq_ok`).
-/

namespace LiquidationDrill.Log

/-- Asking for the name of a level is asking for the level. -/
theorem Record.hasMessageAt_name (record : Record) (message : Value) (level : Level) :
    record.hasMessageAt message level.name = .ok (record.hasMessage message (some level)) := by
  have hl : Level.ofName? level.name = some level := Level.ofName?_eq_some.mpr rfl
  simp only [hasMessageAt, levelNamed, hl]
  rfl

/-- **The records with a message at a level are picked from all records.** -/
theorem withMessage_name (log : Text) (message : Value) (level : Level) :
    withMessage log message level.name =
      (records log).map fun rs => rs.filter (·.hasMessage message (some level)) := by
  cases hr : records log with
  | error fault =>
    rw [withMessage, hr]
    rfl
  | ok rs =>
    rw [withMessage, hr]
    exact Result.filterM_ok (fun record => Record.hasMessageAt_name record message level) rs

/-- A hash that a record must have is the one it shows. -/
theorem Record.requireTxHash_eq_ok {message : Value} {record : Record} {hash : Text} :
    record.requireTxHash message = .ok hash ↔ record.txHash? = .ok (some hash) := by
  rw [requireTxHash, Result.bind_eq_ok]
  constructor
  · rintro ⟨shown, hs, h⟩
    cases shown with
    | none => cases h
    | some other =>
      cases h
      exact hs
  · intro h
    exact ⟨some hash, h, rfl⟩

/-- **The hashes are those of the records with the message at the level of an information**, in order. -/
theorem txHashes_eq_ok {log : Text} {message : Value} {hashes : List Text} :
    txHashes log message = .ok hashes ↔ ∃ rs, records log = .ok rs ∧
      (rs.filter (·.hasMessage message (some .info))).map Record.txHash? = hashes.map fun hash => .ok (some hash) := by
  rw [txHashes, withMessage_name, Result.bind_eq_ok]
  have hshown (orders : List Record) : orders.mapM (Record.requireTxHash message) = .ok hashes ↔
      orders.map Record.txHash? = hashes.map fun hash => .ok (some hash) := by
    rw [Result.mapM_eq_ok]
    exact Result.map_eq_map_congr fun record hash => Record.requireTxHash_eq_ok
  constructor
  · rintro ⟨orders, ho, hm⟩
    obtain ⟨rs, hr, rfl⟩ := Result.map_eq_ok.mp ho
    exact ⟨rs, hr, (hshown _).mp hm⟩
  · rintro ⟨rs, hr, hm⟩
    exact ⟨_, Result.map_eq_ok.mpr ⟨rs, hr, rfl⟩, (hshown _).mpr hm⟩

end LiquidationDrill.Log

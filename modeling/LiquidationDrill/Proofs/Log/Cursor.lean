import LiquidationDrill.Log.Stream
import LiquidationDrill.Proofs.Result

/-!
# Reading a log step by step

`Cursor.after` is where a reader is after some steps. A reader that goes on meets a fault iff reading the whole log
ends with it (`exists_after_eq_error`).
-/

namespace LiquidationDrill.Log

namespace Cursor

/-- A reader after so many steps. -/
def after : Nat → Cursor → Cursor
  | 0, cursor => cursor
  | k + 1, cursor => after k cursor.next.2

variable {entry : Text × Nat} {rest : List (Text × Nat)}

/-- A reader at the end stays there. -/
theorem after_nil (k : Nat) : after k ⟨[]⟩ = ⟨[]⟩ := by
  induction k with
  | zero => rfl
  | succ k ih => exact ih

/-- A reader moves over a record. -/
theorem next_of_ok {record : Record} (h : entryRecord entry = .ok record) :
    next ⟨entry :: rest⟩ = (some (.ok record), ⟨rest⟩) := by
  rw [next, h]

/-- A reader is at the end after a fault. -/
theorem next_of_error {fault : Fault} (h : entryRecord entry = .error fault) :
    next ⟨entry :: rest⟩ = (some (.error fault), ⟨[]⟩) := by
  rw [next, h]

/-- **A reader meets a fault iff the whole log has it.** -/
theorem exists_after_eq_error {entries : List (Text × Nat)} {fault : Fault} :
    (∃ k, (after k ⟨entries⟩).next.1 = some (.error fault)) ↔ entries.mapM entryRecord = .error fault := by
  induction entries with
  | nil =>
    constructor
    · rintro ⟨k, h⟩
      rw [after_nil] at h
      cases h
    · intro h
      cases h
  | cons entry rest ih =>
    rw [List.mapM_cons, Result.bind_eq_error]
    cases he : entryRecord entry with
    | ok record =>
      have hnext : next ⟨entry :: rest⟩ = (some (.ok record), ⟨rest⟩) := next_of_ok he
      constructor
      · rintro ⟨k, h⟩
        cases k with
        | zero =>
          rw [after, hnext] at h
          cases h
        | succ k =>
          rw [after, hnext] at h
          exact Or.inr ⟨record, rfl, Result.bind_eq_error.mpr (Or.inl (ih.mp ⟨k, h⟩))⟩
      · rintro (h | ⟨_, -, h⟩)
        · cases h
        · rcases Result.bind_eq_error.mp h with h | ⟨_, -, h⟩
          · obtain ⟨k, h⟩ := ih.mpr h
            exact ⟨k + 1, by rwa [after, hnext]⟩
          · cases h
    | error other =>
      have hnext : next ⟨entry :: rest⟩ = (some (.error other), ⟨[]⟩) := next_of_error he
      constructor
      · rintro ⟨k, h⟩
        cases k with
        | zero =>
          rw [after, hnext] at h
          cases h
          exact Or.inl rfl
        | succ k =>
          rw [after, hnext, after_nil] at h
          cases h
      · rintro (h | ⟨_, h, -⟩)
        · cases h
          exact ⟨0, by rw [after, hnext]⟩
        · cases h

end Cursor

end LiquidationDrill.Log

import LiquidationDrill.Log.Record

/-!
# Sets of records

A set tells its members apart by their keys first, and members of one key by all that they hold. What has no key cannot
be looked for, so it cannot be added either.

- `RecordSet.add`: adds a record that is not there yet;
- `RecordSet.ofList`: the set of some records.
-/

namespace LiquidationDrill.Log

/-- The members of a set and their keys, in the order in which they were added. -/
abbrev RecordSet := List (Record.Key × Record)

namespace RecordSet

/-- A member has this key and is the same as the record. -/
def contains (set : RecordSet) (key : Record.Key) (record : Record) : Bool :=
  set.any fun (key', member) => key' = key && member.same record

/-- Adds a record that is not there yet. -/
def add (set : RecordSet) (record : Record) : Except Value.Unhashable RecordSet := do
  let key ← record.key
  return if set.contains key record then set else set ++ [(key, record)]

/-- The set of records that are added one after the other. -/
def ofList (records : List Record) : Except Value.Unhashable RecordSet := records.foldlM add []

section Steps

variable {set : RecordSet} {record : Record}

/-- A record with a key is added unless it is there. -/
theorem add_of_key {key : Record.Key} (h : record.key = .ok key) :
    set.add record = .ok (if set.contains key record then set else set ++ [(key, record)]) := by
  rw [add, h]
  rfl

/-- A record without a key is not added. -/
theorem add_of_unhashable {fault : Value.Unhashable} (h : record.key = .error fault) :
    set.add record = .error fault := by
  rw [add, h]
  rfl

end Steps

/-- The set of two records has as many members as the two are told to be. -/
theorem setSize_eq_length (a b : Record) : a.setSize b = (ofList [a, b]).map List.length := by
  cases ha : a.key with
  | error fault =>
    rw [Record.setSize, ha, ofList, List.foldlM, add_of_unhashable ha]
    rfl
  | ok k =>
    have hfirst : ofList [a, b] = add [(k, a)] b := by
      rw [ofList, List.foldlM, add_of_key ha]
      exact bind_pure (add [(k, a)] b)
    cases hb : b.key with
    | error fault =>
      rw [hfirst, Record.setSize, ha, hb, add_of_unhashable hb]
      rfl
    | ok l =>
      have hcontains : contains [(k, a)] l b = true ↔ k = l ∧ a.same b = true := by simp [contains]
      rw [hfirst, Record.setSize, ha, hb, add_of_key hb]
      by_cases h : k = l ∧ a.same b = true
      · rw [if_pos (hcontains.mpr h)]
        exact congrArg Except.ok (if_pos h)
      · rw [if_neg (mt hcontains.mp h)]
        exact congrArg Except.ok (if_neg h)

end RecordSet

end LiquidationDrill.Log

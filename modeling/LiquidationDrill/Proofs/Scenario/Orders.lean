import LiquidationDrill.Proofs.Log.HashFaults
import LiquidationDrill.Scenario.Predicate

/-!
# Orders, read in four ways

The orders of a log are picked from its records, counted by a predicate, counted as buy orders, or shown by their
hashes. Where there are hashes, all of these tell of as many orders (`orders_agree`); and there are hashes iff the log
has records and every order among them has one (`txHashes_isOk`).
-/

namespace LiquidationDrill.Scenario

open Log

variable {log : Text} {message : Value} {rs : List Record}

/-- A count on records finds as many as are picked. -/
theorem Predicate.verdict_count (message expected : Value) (level : Level) (rs : List Record) :
    (Predicate.count message expected level).verdict rs =
      ⟨(Predicate.count message expected level).name, (Value.int (Log.count message level rs)).same expected,
        "found " ++ Text.ofNat (Log.count message level rs), none⟩ := rfl

/-- **There are hashes iff the log has records and every order has a hash**, whatever the other records hold. -/
theorem txHashes_isOk : (∃ hashes, txHashes log message = .ok hashes) ↔
    ∃ rs, records log = .ok rs ∧ ∀ record ∈ rs, record.IsOrder message → record.HasHash := by
  constructor
  · rintro ⟨hashes, h⟩
    obtain ⟨rs, hr, hshown⟩ := txHashes_eq_ok.mp h
    refine ⟨rs, hr, fun record hm ho => ?_⟩
    have hpicked : record ∈ rs.filter (·.hasMessage message (some .info)) :=
      List.mem_filter.mpr ⟨hm, Record.hasMessage_info.mpr ho⟩
    obtain ⟨hash, -, hh⟩ := List.mem_map.mp (hshown ▸ List.mem_map_of_mem hpicked)
    exact Record.txHash?_isSome.mp ⟨hash, hh.symm⟩
  · rintro ⟨rs, hr, hall⟩
    cases h : txHashes log message with
    | ok hashes => exact ⟨hashes, rfl⟩
    | error fault =>
      rcases txHashes_eq_error.mp h with he | ⟨rs', record, hr', hf⟩
      · rw [hr] at he
        cases he
      · obtain rfl := Except.ok.inj (hr.symm.trans hr')
        exact absurd (hall record hf.mem hf.isOrder) hf.lacks.not_hasHash

/-- **Orders are as many whichever way they are read, and hashes are those of the orders in turn.** The search for
hashes fails with the first rejected line, or else with the first order that lacks a hash; records of another level or
message never make it fail. -/
theorem orders_agree (log : Text) (message : Value) :
    (∀ hashes, txHashes log message = .ok hashes →
      ∃ rs orders, records log = .ok rs ∧ withMessage log message Level.info.name = .ok orders ∧
        orders.Sublist rs ∧ (∀ record ∈ rs, record ∈ orders ↔ record.IsOrder message) ∧
        orders.length = hashes.length ∧ Log.count message .info rs = hashes.length ∧
        (∀ expected, (Predicate.count message expected .info).verdict rs =
          ⟨(Predicate.count message expected .info).name, (Value.int hashes.length).same expected,
            "found " ++ Text.ofNat hashes.length, none⟩) ∧
        (message = .string buyOrder →
          countBuyOrders log = .ok hashes.length ∧ Log.count (.string buyOrder) .info rs = hashes.length) ∧
        ∀ i : Nat, orders[i]?.map Record.txHash? = hashes[i]?.map fun hash => .ok (some hash)) ∧
      ((∃ hashes, txHashes log message = .ok hashes) ↔
        ∃ rs, records log = .ok rs ∧ ∀ record ∈ rs, record.IsOrder message → record.HasHash) ∧
      ∀ fault, txHashes log message = .error fault ↔
        (∃ i line, FirstRejected 1 log.lines i line fault) ∨
          ∃ rs record, records log = .ok rs ∧ FirstLacking message rs record fault := by
  refine ⟨fun hashes h => ?_, txHashes_isOk, fun fault => ?_⟩
  · obtain ⟨rs, hr, hshown⟩ := txHashes_eq_ok.mp h
    have hlength : (rs.filter (·.hasMessage message (some .info))).length = hashes.length := by
      simpa using congrArg List.length hshown
    have hcount : Log.count message .info rs = hashes.length := by
      rw [Log.count, List.countP_eq_length_filter, hlength]
    refine ⟨rs, _, hr, ?_, List.filter_sublist, fun record hm => ?_, hlength, hcount, fun expected => ?_, ?_, fun i => ?_⟩
    · rw [withMessage_name, hr]
      rfl
    · rw [List.mem_filter, Record.hasMessage_info]
      exact and_iff_right hm
    · rw [Predicate.verdict_count, hcount]
    · rintro rfl
      refine ⟨?_, hcount⟩
      rw [countBuyOrders, hr, ← hcount]
      rfl
    · rw [← List.getElem?_map, ← List.getElem?_map, hshown]
  · rw [txHashes_eq_error, records_eq, recordsFrom_eq_error]

end LiquidationDrill.Scenario

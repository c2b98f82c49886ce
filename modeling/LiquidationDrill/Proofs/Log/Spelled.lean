import LiquidationDrill.Proofs.Json.Integers
import LiquidationDrill.Proofs.Json.Taken
import LiquidationDrill.Proofs.Log.Decoded

/-!
# Lines as they are spelled

What keeps a line from being JSON is that it spells no value, as long as its integers are short enough and it is not
nested too deep; any other line is judged by the value that it spells (`Record.ofLine_spells`). The wording tells these
faults from the others of a line: only they are said to be invalid JSON (`Record.BlamesJson`, `Record.not_blamesJson`).
-/

namespace LiquidationDrill.Log.Record

/-- The line is rejected with a reason that begins with the words "invalid JSON". -/
def BlamesJson (result : Except Fault Record) : Prop :=
  ∃ reason place, result = .error (.malformed reason place) ∧ reason.message.startsWith "invalid JSON" = true

/-- No test of an event is worded so. -/
theorem Unfit.message_eq {event : Value} {reason : Reason} (h : Unfit event reason) :
    reason.message.startsWith "invalid JSON" = false := by
  cases h with
  | notObject | missingLevel | missingFields => decide
  | unknownLevel => simp [Reason.message, Text.startsWith, Text.ofString, List.isPrefixOf]

/-- No event is rejected so. -/
theorem not_blamesJson (event : Value) (n : Int) (line : Text) : ¬BlamesJson (ofEvent event n line) := by
  rintro ⟨reason, place, h, hs⟩
  rcases ofEvent_cases event with ⟨members, fields, level, hd⟩ | ⟨reason', hu, hr⟩
  · rw [hd.ofEvent_eq, Result.map_eq_error, spansOf_eq_error] at h
    cases h.2
  · rw [hr] at h
    cases h
    rw [hu.message_eq] at hs
    cases hs

/-- **A line is no JSON iff it spells no value, and any other line is read as the value that it spells.** -/
theorem ofLine_spells {line : Text} (hn : Json.nesting line ≤ Json.maxDepth)
    (hd : ∀ ds, Json.IntegerIn line ds → ds.length ≤ Text.maxDigits) (n : Int) :
    (BlamesJson (ofLine line n) ↔ ¬∃ x, Json.Spells line x) ∧
      ∀ x, (Json.Spells line x ↔ Json.read line = .ok x) ∧ (Json.Spells line x → ofLine line n = ofEvent x n line) := by
  have hread {x : Value} : Json.read line = .ok x ↔ Json.Spells line x :=
    Json.read_iff_spells (Json.read_ne_beyond hn hd)
  have hevent {x : Value} (hx : Json.Spells line x) : ofLine line n = ofEvent x n line :=
    ofLine_of_read (hread.mpr hx) n
  refine ⟨⟨?_, fun hno => ?_⟩, fun x => ⟨hread.symm, hevent⟩⟩
  · rintro hb ⟨x, hx⟩
    rw [hevent hx] at hb
    exact not_blamesJson x n line hb
  · cases hj : Json.read line with
    | ok x => exact absurd ⟨x, hread.mp hj⟩ hno
    | error fault =>
      have hf (limit : Json.Limit) : fault ≠ .beyond limit := fun h => Json.read_ne_beyond hn hd limit (h ▸ hj)
      refine ⟨.notJson fault, some ⟨n, line⟩, ofLine_of_read_error hj hf, ?_⟩
      simp [Reason.message, Text.startsWith, Text.ofString]

/-- A name that is repeated, at last with an escaped surrogate pair. -/
def renamed : Text := " \x7b\"a\":1,\"a\":\"\\ud83d\\ude00\"\x7d"

/-- It spells an object with one member, whose string is one code point. -/
theorem renamed_spelled :
    Json.nesting renamed ≤ Json.maxDepth ∧ (∀ ds, Json.IntegerIn renamed ds → ds.length ≤ Text.maxDigits) ∧
      Json.Spells renamed (.object [("a", .string [.ofNat 0x1F600])]) := by
  have hn : Json.nesting renamed ≤ Json.maxDepth := by decide +kernel
  have hd (ds : Text) (h : Json.IntegerIn renamed ds) : ds.length ≤ Text.maxDigits :=
    Nat.le_trans h.length_le (by decide)
  exact ⟨hn, hd, ((ofLine_spells hn hd 1).2 _).1.mpr (by decide +kernel)⟩

end LiquidationDrill.Log.Record

import LiquidationDrill.Proofs.Json.Limits
import LiquidationDrill.Proofs.Log.Cursor
import LiquidationDrill.Proofs.Log.Line
import LiquidationDrill.Proofs.Log.Records

/-!
# The fault of a log

A log that is nested no deeper than the reader goes fails at its first rejected line, and it names that line as
malformed unless the line holds an integer of too many digits (`Record.Overlong`) or would be a record but for spans
that are true or a number other than zero (`Record.SpansUnreadable`). `fault_of_first_rejected` says so for reading
the whole log and for every reader that reads it record by record.
-/

namespace LiquidationDrill.Log

namespace Record

/-- The reader gives up on a line because of a row of more digits than it converts. -/
def Overlong (line : Text) : Prop :=
  ∃ ds : Text, Json.read line = .error (.beyond (.integerTooLong ds.length)) ∧ Text.maxDigits < ds.length ∧
    ds <:+: line ∧ ∀ c ∈ ds, c.isDigit = true

/-- Of the lines that are not nested too deep the reader gives up on the overlong ones. -/
theorem overlong_iff {line : Text} (hn : Json.nesting line ≤ Json.maxDepth) :
    Overlong line ↔ ∃ limit, Json.read line = .error (.beyond limit) := by
  constructor
  · rintro ⟨ds, hr, -⟩
    exact ⟨_, hr⟩
  · rintro ⟨limit, h⟩
    obtain ⟨n, rfl⟩ := Json.read_beyond_of_nesting_le hn h
    obtain ⟨hlong, ds, rfl, hi, hd⟩ := Json.read_beyond h
    exact ⟨ds, h, hlong, hi, hd⟩

end Record

/-- **A log fails at its first rejected line, and names it unless it is overlong or its spans are unreadable.** It does
not matter whether the log is read as a whole or record by record. In the two other cases the fault tells neither the
number nor the text of the line. -/
theorem fault_of_first_rejected (log : Text) (hn : ∀ line ∈ log.lines, Json.nesting line ≤ Json.maxDepth)
    (fault : Fault)
    (h : records log = .error fault ∨ ∃ k, (Cursor.after k (.start log)).next.1 = some (.error fault)) :
    ∃ i line, FirstRejected 1 log.lines i line fault ∧
      ((∃ reason, fault = .malformed reason (some ⟨(i + 1 : Nat), line⟩)) ↔
        ¬Record.Overlong line ∧ ¬Record.SpansUnreadable line) ∧
      ((∃ limit, fault = .beyond limit) ↔ Record.Overlong line) ∧
      ((∃ spans, fault = .spansNotIterable spans) ↔ Record.SpansUnreadable line) := by
  have hr : records log = .error fault := by
    rcases h with h | h
    · exact h
    · exact Cursor.exists_after_eq_error.mp h
  rw [records_eq, recordsFrom_eq_error] at hr
  obtain ⟨i, line, hf⟩ := hr
  have hl : line ∈ log.lines := List.mem_of_getElem? hf.line_at
  have hover := Record.overlong_iff (hn line hl)
  refine ⟨i, line, hf, ?_⟩
  rcases Record.ofLine_eq_error hf.rejected with ⟨⟨reason, rfl⟩, hb, hs⟩ | ⟨limit, rfl, hb⟩ | ⟨⟨spans, rfl⟩, hs⟩
  · have ho : ¬Record.Overlong line := fun ho => by
      obtain ⟨limit, hl⟩ := hover.mp ho
      exact hb limit hl
    simp [ho, hs]
  · have ho : Record.Overlong line := hover.mpr ⟨limit, hb⟩
    have hs : ¬Record.SpansUnreadable line := fun hs => hs.not_beyond limit hb
    simp [ho, hs]
  · have ho : ¬Record.Overlong line := fun ho => by
      obtain ⟨limit, hb⟩ := hover.mp ho
      exact hs.not_beyond limit hb
    simp [ho, hs]

/-- Where a log is malformed, if it is and this is known. -/
def malformedAt? (log : Text) : Option Place :=
  match records log with
  | .error (.malformed _ place) => place
  | _ => none

theorem records_of_malformedAt? {log : Text} {place : Place} (h : malformedAt? log = some place) :
    ∃ reason, records log = .error (.malformed reason (some place)) := by
  unfold malformedAt? at h
  split at h
  next reason place' hr => exact ⟨reason, by rw [hr, h]⟩
  next => cases h

/-- An event, a blank line and a line that is no JSON. -/
def goneAfterBlank : Text := "\x7b\"level\":\"INFO\",\"fields\":\x7b\x7d\x7d\n\ngone"

/-- The log fails at its third line, and the fault names this line. -/
theorem fault_of_no_json : (∀ line ∈ goneAfterBlank.lines, Json.nesting line ≤ Json.maxDepth) ∧
    ∃ reason, records goneAfterBlank = .error (.malformed reason (some ⟨3, "gone"⟩)) ∧
      FirstRejected 1 goneAfterBlank.lines 2 "gone" (.malformed reason (some ⟨3, "gone"⟩)) ∧
      ¬Record.Overlong "gone" ∧ ¬Record.SpansUnreadable "gone" := by
  have hn : ∀ line ∈ goneAfterBlank.lines, Json.nesting line ≤ Json.maxDepth := by decide +kernel
  obtain ⟨reason, hr⟩ : ∃ reason, records goneAfterBlank = .error (.malformed reason (some ⟨3, "gone"⟩)) :=
    records_of_malformedAt? (by decide +kernel)
  obtain ⟨i, line, hf, hplaced, hover, hspans⟩ := fault_of_first_rejected goneAfterBlank hn _ (Or.inl hr)
  have ho : ¬Record.Overlong line := fun h => by
    obtain ⟨limit, hl⟩ := hover.mpr h
    cases hl
  have hs : ¬Record.SpansUnreadable line := fun h => by
    obtain ⟨spans, hl⟩ := hspans.mpr h
    cases hl
  obtain ⟨_, he⟩ := hplaced.mpr ⟨ho, hs⟩
  obtain ⟨rfl, hplace⟩ := Fault.malformed.inj he
  obtain ⟨hi, rfl⟩ := Place.mk.inj (Option.some.inj hplace)
  obtain rfl : i = 2 := by omega
  exact ⟨hn, reason, hr, hf, ho, hs⟩

/-- An event with a number for its spans. -/
def countedSpans : Text := "\x7b\"level\":\"INFO\",\"fields\":\x7b\x7d,\"spans\":1\x7d"

/-- It is nested no deeper than the reader goes, and a log of it alone fails without a malformed line. -/
theorem countedSpans_not_malformed :
    (∀ line ∈ countedSpans.lines, Json.nesting line ≤ Json.maxDepth) ∧
      ∃ fault, records countedSpans = .error fault ∧ ∀ reason place, fault ≠ .malformed reason place := by
  refine ⟨by decide +kernel, ?_⟩
  have h : (match records countedSpans with
    | .error (.spansNotIterable _) => true
    | _ => false) = true := by decide +kernel
  split at h
  next spans hs => exact ⟨.spansNotIterable spans, hs, fun _ _ hf => by cases hf⟩
  next => cases h

end LiquidationDrill.Log

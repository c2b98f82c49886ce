import LiquidationDrill.Proofs.Scenario.Evidence

/-!
# Lists of allowed errors

An allowed error includes another one if it allows it with the same piece of an error, a piece of that piece, or any
error at all (`AllowedError.Includes`). What a record may report under the one it may report under the other
(`Includes.covers`), so a list of allowed errors may be replaced by one that includes each of them (`AllIncluded`):
fewer records offend (`AllIncluded.offends`). A judgement that passes then stays the same (`AllIncluded.verdict_eq`),
and one that fails does so at the same record or a later one (`AllIncluded.failsAt`).
-/

namespace LiquidationDrill.Scenario

open Log (Record)

/-! ## Allowed errors -/

namespace AllowedError

/-- The error has the message of the other one, and asks for no piece or for a piece of what the other one asks for. -/
structure Includes (wide narrow : AllowedError) : Prop where
  message : wide.message = narrow.message
  piece : ∀ piece, wide.errorContains = some piece → ∃ whole, narrow.errorContains = some whole ∧ piece <:+: whole

variable {wide narrow : AllowedError}

/-- Every allowed error includes itself. -/
theorem Includes.refl (error : AllowedError) : error.Includes error where
  message := rfl
  piece piece h := ⟨piece, h, List.infix_rfl⟩

/-- **What is allowed by an error is allowed by every error that includes it.** -/
theorem Includes.covers (h : wide.Includes narrow) {record : Record} (hc : narrow.Covers record) :
    wide.Covers record where
  message := h.message ▸ hc.message
  contains piece hp := by
    obtain ⟨whole, hw, hin⟩ := h.piece piece hp
    exact hin.trans (hc.contains whole hw)

end AllowedError

/-! ## Lists of them -/

/-- Each of the errors is included in one of the others. -/
def AllIncluded (narrow wide : List AllowedError) : Prop :=
  ∀ error ∈ narrow, ∃ other ∈ wide, other.Includes error

/-- A list is included in every list that holds its errors, in whatever order and however often. -/
theorem AllIncluded.of_subset {narrow wide : List AllowedError} (h : narrow ⊆ wide) : AllIncluded narrow wide :=
  fun error he => ⟨error, h he, .refl error⟩

/-- The record with this index is the first one that offends, and the judgement fails and cites it. -/
structure FailsAt (predicate : Predicate) (records : List Record) (i : Nat) : Prop where
  failed : (predicate.verdict records).passed = false
  cited : ∃ record, records[i]? = some record ∧ (predicate.verdict records).record = some record ∧
    predicate.Offends record
  first : ∀ j < i, ∀ earlier, records[j]? = some earlier → ¬predicate.Offends earlier

section Verdicts

open Predicate

variable {narrow wide : List AllowedError} {records : List Record}

/-- A judgement on errors that fails does so at a record. -/
theorem exists_failsAt (h : ((noUnexpectedErrors wide).verdict records).passed = false) :
    ∃ i, FailsAt (noUnexpectedErrors wide) records i := by
  have hc := noUnexpectedErrors_citesFirst wide records
  obtain ⟨record, hf⟩ : ∃ record, records.find? (isUnexpected wide) = some record := by
    rw [hc.passed_eq, Option.isNone_eq_false_iff, Option.isSome_iff_exists] at h
    exact h
  obtain ⟨hk, i, hi, rfl, hbefore⟩ := List.find?_eq_some_iff_getElem.mp hf
  refine ⟨i, h, ⟨records[i], List.getElem?_eq_getElem hi, hc.record_eq.trans hf, isUnexpected_iff.mp hk⟩, ?_⟩
  intro j hj earlier he
  obtain ⟨hlt, rfl⟩ := List.getElem?_eq_some_iff.mp he
  rw [← isUnexpected_iff]
  simpa using hbefore j hj

namespace AllIncluded

/-- A record that offends the wider list offends the narrower one. -/
theorem offends (h : AllIncluded narrow wide) {record : Record} (ho : (noUnexpectedErrors wide).Offends record) :
    (noUnexpectedErrors narrow).Offends record := by
  refine ⟨ho.1, fun error he hc => ?_⟩
  obtain ⟨other, hm, hi⟩ := h error he
  exact ho.2 other hm (hi.covers hc)

/-- **A judgement that passes stays the same** if more is allowed. -/
theorem verdict_eq (h : AllIncluded narrow wide) (hp : ((noUnexpectedErrors narrow).verdict records).passed = true) :
    (noUnexpectedErrors wide).verdict records = (noUnexpectedErrors narrow).verdict records := by
  rw [(noUnexpectedErrors_citesFirst narrow records).passed_iff] at hp
  have hn : records.find? (isUnexpected narrow) = none := List.find?_eq_none.mpr hp
  have hw : records.find? (isUnexpected wide) = none := List.find?_eq_none.mpr fun record hr hk =>
    hp record hr (isUnexpected_iff.mpr (h.offends (isUnexpected_iff.mp hk)))
  simp only [verdict, hn, hw]
  rfl

/-- **A judgement that fails failed at the same record or an earlier one** while less was allowed. -/
theorem failsAt (h : AllIncluded narrow wide) {j : Nat} (hj : FailsAt (noUnexpectedErrors wide) records j) :
    ∃ i ≤ j, FailsAt (noUnexpectedErrors narrow) records i := by
  obtain ⟨record, hr, -, ho⟩ := hj.cited
  have hfails : ((noUnexpectedErrors narrow).verdict records).passed = false := by
    rw [← Bool.not_eq_true, (noUnexpectedErrors_citesFirst narrow records).passed_iff]
    exact fun hall => hall record (List.mem_of_getElem? hr) (isUnexpected_iff.mpr (h.offends ho))
  obtain ⟨i, hi⟩ := exists_failsAt hfails
  refine ⟨i, ?_, hi⟩
  rw [← Nat.not_lt]
  exact fun hlt => hi.first j hlt record hr (h.offends ho)

/-- Lists that include each other are judged alike. -/
theorem verdict_eq_of_both (h : AllIncluded narrow wide) (hw : AllIncluded wide narrow) (records : List Record) :
    (noUnexpectedErrors wide).verdict records = (noUnexpectedErrors narrow).verdict records := by
  have hk : isUnexpected wide = isUnexpected narrow := funext fun record => by
    rw [Bool.eq_iff_iff, isUnexpected_iff, isUnexpected_iff]
    exact ⟨h.offends, hw.offends⟩
  simp only [verdict, hk]
  rfl

end AllIncluded

end Verdicts

end LiquidationDrill.Scenario

import LiquidationDrill.Proofs.Text.Shown
import LiquidationDrill.Proofs.Value.Printable
import LiquidationDrill.Scenario.Expectation

/-!
# What judgements say

A judgement has the name of its predicate (`Predicate.verdict_name`), and its detail is printable whatever the log holds
(`Predicate.verdict_detail_printable`). On unexpected errors or on a vault it cites the first record that offends
(`CitesFirst`), on the last message the last record unless it has this message (`CitesLast`); either way a record of the
log (`Predicate.mem_of_cited`). The name is shown on one line, if the vault id in it is (`Predicate.name_shown`).

A scenario fails iff a predicate is broken, and names the broken ones in their order (`check_eq`).
-/

namespace LiquidationDrill.Scenario

open Log (Record)
open Text (Printable printable_append)

/-! ## What is cited -/

section Cited

variable {records : List Record} {verdict : Verdict}

/-- The judgement cites the first record of some kind, and passes if there is none. -/
structure CitesFirst (kind : Record → Bool) (records : List Record) (verdict : Verdict) : Prop where
  record_eq : verdict.record = records.find? kind
  passed_eq : verdict.passed = (records.find? kind).isNone

/-- The judgement passes if the last record is of some kind, and cites it otherwise. -/
structure CitesLast (kind : Record → Bool) (records : List Record) (verdict : Verdict) : Prop where
  record_eq : verdict.record = records.getLast?.filter (!kind ·)
  passed_eq : verdict.passed = records.getLast?.any kind

theorem CitesFirst.passed_iff {kind : Record → Bool} (h : CitesFirst kind records verdict) :
    verdict.passed = true ↔ ∀ record ∈ records, ¬kind record = true := by
  rw [h.passed_eq, Option.isNone_iff_eq_none, List.find?_eq_none]

/-- A failure is cited. -/
theorem CitesFirst.passed_of_none {kind : Record → Bool} (h : CitesFirst kind records verdict)
    (hn : verdict.record = none) : verdict.passed = true := by
  rw [h.passed_eq, ← h.record_eq, hn]
  rfl

/-- Nothing is cited by a judgement that passes. -/
theorem CitesFirst.failed {kind : Record → Bool} (h : CitesFirst kind records verdict) {record : Record}
    (hr : verdict.record = some record) : verdict.passed = false := by
  rw [h.passed_eq, ← h.record_eq, hr]
  rfl

/-- What is cited is of the kind, and nothing before it is. -/
theorem CitesFirst.cited_iff {kind : Record → Bool} (h : CitesFirst kind records verdict) {record : Record} :
    verdict.record = some record ↔ kind record = true ∧ ∃ before after, records = before ++ record :: after ∧
      ∀ earlier ∈ before, ¬kind earlier = true := by
  rw [h.record_eq, List.find?_eq_some_iff_append]
  simp only [Bool.not_eq_true', Bool.not_eq_true]

theorem CitesLast.passed_iff {kind : Record → Bool} (h : CitesLast kind records verdict) :
    verdict.passed = true ↔ ∃ last, records.getLast? = some last ∧ kind last = true := by
  rw [h.passed_eq, Option.any_eq_true]

/-- What is cited is the last record, and it is not of this kind. -/
theorem CitesLast.cited {kind : Record → Bool} (h : CitesLast kind records verdict) {record : Record}
    (hr : verdict.record = some record) : records.getLast? = some record ∧ kind record = false := by
  rw [h.record_eq, Option.filter_eq_some_iff] at hr
  exact ⟨hr.1, by simpa using hr.2⟩

theorem CitesLast.failed {kind : Record → Bool} (h : CitesLast kind records verdict) {record : Record}
    (hr : verdict.record = some record) : verdict.passed = false := by
  obtain ⟨hl, hk⟩ := h.cited hr
  rw [h.passed_eq, hl, Option.any_some, hk]

/-- A failure is cited unless there are no records. -/
theorem CitesLast.failed_without {kind : Record → Bool} (h : CitesLast kind records verdict) :
    verdict.passed = false ∧ verdict.record = none ↔ records = [] := by
  rw [h.passed_eq, h.record_eq]
  cases hl : records.getLast? with
  | none => simpa using List.getLast?_eq_none_iff.mp hl
  | some last =>
    have hne : records ≠ [] := by
      rintro rfl
      cases hl
    cases hk : kind last <;> simp [hk, hne]

end Cited

/-! ## Judgements -/

namespace Predicate

variable {predicate : Predicate} {records : List Record}

theorem verdict_name (predicate : Predicate) (records : List Record) :
    (predicate.verdict records).name = predicate.name := by
  cases predicate with
  | count message expected level => rfl
  | noUnexpectedErrors allowed =>
    simp only [verdict]
    split <;> rfl
  | vaultExcluded vaultId message =>
    simp only [verdict]
    split <;> rfl
  | finalMessage message =>
    simp only [verdict]
    split
    · rfl
    · split <;> rfl

/-- **The detail of a judgement is printable**: it quotes what it takes from the log. -/
theorem verdict_detail_printable (predicate : Predicate) (records : List Record) :
    Printable (predicate.verdict records).detail := by
  cases predicate with
  | count message expected level => exact printable_append.mpr ⟨by decide, Text.ofNat_printable _⟩
  | noUnexpectedErrors allowed =>
    simp only [verdict]
    split
    · simp only [printable_append]
      exact ⟨⟨⟨⟨by decide, Value.quoted_printable _⟩, by decide⟩, Value.quoted_printable _⟩, by decide⟩
    · exact printable_append.mpr ⟨Text.ofNat_printable _, by decide⟩
  | vaultExcluded vaultId message =>
    simp only [verdict]
    split <;> dsimp only <;> decide
  | finalMessage message =>
    simp only [verdict]
    split
    · dsimp only
      decide
    split
    · dsimp only
      decide
    · exact printable_append.mpr ⟨by decide, Value.quoted_printable _⟩

/-- An error that no one allows is cited. -/
theorem noUnexpectedErrors_citesFirst (allowed : List AllowedError) (records : List Record) :
    CitesFirst (isUnexpected allowed) records ((noUnexpectedErrors allowed).verdict records) := by
  cases hf : records.find? (isUnexpected allowed) <;> constructor <;> simp [verdict, hf]

/-- A record about the vault is cited. -/
theorem vaultExcluded_citesFirst (vaultId message : Value) (records : List Record) :
    CitesFirst (isAboutVault vaultId message) records ((vaultExcluded vaultId message).verdict records) := by
  cases hf : records.find? (isAboutVault vaultId message) <;> constructor <;> simp [verdict, hf]

/-- A last record with another message is cited. -/
theorem finalMessage_citesLast (message : Value) (records : List Record) :
    CitesLast (·.carries message) records ((finalMessage message).verdict records) := by
  cases hl : records.getLast? with
  | none => constructor <;> simp [verdict, hl]
  | some last => cases hc : last.carries message <;> constructor <;> simp [verdict, hl, hc, Option.filter_some]

/-- Where all errors are allowed they are counted. -/
theorem noUnexpectedErrors_detail {allowed : List AllowedError} {records : List Record}
    (h : ((noUnexpectedErrors allowed).verdict records).passed = true) :
    ((noUnexpectedErrors allowed).verdict records).detail =
      Text.ofNat (records.countP (·.level = .error)) ++ " allowed error(s)" := by
  rw [(noUnexpectedErrors_citesFirst allowed records).passed_eq, Option.isNone_iff_eq_none] at h
  simp [verdict, h]

/-- A record that a judgement cites is one of those that are judged. -/
theorem mem_of_cited {record : Record} (h : (predicate.verdict records).record = some record) : record ∈ records := by
  cases predicate with
  | count message expected level => cases h
  | noUnexpectedErrors allowed =>
    rw [(noUnexpectedErrors_citesFirst allowed records).record_eq] at h
    exact List.mem_of_find?_eq_some h
  | vaultExcluded vaultId message =>
    rw [(vaultExcluded_citesFirst vaultId message records).record_eq] at h
    exact List.mem_of_find?_eq_some h
  | finalMessage message => exact List.mem_of_getLast? ((finalMessage_citesLast message records).cited h).1

/-- **The name of a predicate is printable** unless it names a vault. A count names a number. -/
theorem name_printable (hv : ∀ vaultId message, predicate ≠ .vaultExcluded vaultId message)
    (hc : ∀ message expected level, predicate = .count message expected level → ∃ n : Int, expected = .int n) :
    Printable predicate.name := by
  cases predicate with
  | count message expected level =>
    obtain ⟨n, rfl⟩ := hc message expected level rfl
    have hl : Printable level.name := by cases level <;> decide
    simp only [name, printable_append]
    exact ⟨⟨⟨⟨⟨by decide, hl⟩, by decide⟩, Value.quoted_printable _⟩, by decide⟩, Value.quoted_printable (.int n)⟩
  | noUnexpectedErrors _ =>
    show Printable "no unexpected ERROR records"
    decide
  | vaultExcluded vaultId message => exact absurd rfl (hv vaultId message)
  | finalMessage message => exact printable_append.mpr ⟨by decide, Value.quoted_printable _⟩

/-- It is shown on one line, if that of the vault it is about is. -/
theorem name_shown (hv : ∀ vaultId message, predicate = .vaultExcluded vaultId message → (plainVaultId vaultId).Shown)
    (hc : ∀ message expected level, predicate = .count message expected level → ∃ n : Int, expected = .int n) :
    predicate.name.Shown := by
  cases predicate with
  | vaultExcluded vaultId message =>
    simp only [name, Text.shown_append]
    exact ⟨⟨⟨by decide, hv vaultId message rfl⟩, by decide⟩, (Value.quoted_printable _).shown⟩
  | _ => exact (name_printable (fun _ _ => by simp) hc).shown

end Predicate

/-! ## Scenarios -/

/-- The judgements that a failure names; none if there is no failure. -/
def broken : Except Failure (List Verdict) → List Verdict
  | .ok _ => []
  | .error failure => failure.failures

variable (scenario : Text) (verdicts : List Verdict)

/-- A scenario fails unless all its predicates hold. -/
theorem check_eq : check scenario verdicts =
    if verdicts.all Verdict.passed then .ok verdicts else .error ⟨scenario, verdicts.filter (!·.passed)⟩ := by
  unfold check
  split
  next hf =>
    rw [if_pos]
    simpa [List.filter_eq_nil_iff] using hf
  next hf =>
    rw [if_neg]
    simpa [List.filter_eq_nil_iff] using hf

/-- **The judgements that a failure names** are those that are broken, in their order. -/
theorem broken_check : broken (check scenario verdicts) = verdicts.filter (!·.passed) := by
  rw [check_eq]
  split
  next hall =>
    symm
    simpa [broken, List.filter_eq_nil_iff] using hall
  · rfl

end LiquidationDrill.Scenario

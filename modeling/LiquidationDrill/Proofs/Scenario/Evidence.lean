import LiquidationDrill.Proofs.Log.Places
import LiquidationDrill.Proofs.Scenario.Verdict

/-!
# The evidence for a judgement

A predicate is broken by records that offend it (`Predicate.Offends`). What a judgement cites, the first record that
offends or the last record of all, stands on the first line that offends or on the last line that is not blank: it is
`Evidence` (`CitesFirst.evidence`, `CitesLast.evidence`). `evidence_cited` says when each of the three kinds of
predicates holds, and what is cited where it does not.
-/

namespace LiquidationDrill.Scenario

open Log (Record)

/-! ## What breaks a predicate -/

/-- The error of a record, in which pieces are sought: an empty text where it is missing, null, false, zero or empty. -/
def errorText (record : Record) : Text := if record.error.isTruthy then record.error.display else []

/-- The record reports an allowed error: it has the message, and its error contains the piece, if one is given. -/
structure AllowedError.Covers (allowed : AllowedError) (record : Record) : Prop where
  message : record.carries allowed.message = true
  contains : ∀ piece, allowed.errorContains = some piece → piece <:+: errorText record

theorem AllowedError.matchesRecord_iff {allowed : AllowedError} {record : Record} :
    allowed.matchesRecord record = true ↔ allowed.Covers record := by
  unfold matchesRecord
  rw [Bool.and_eq_true]
  cases hc : allowed.errorContains with
  | none => exact ⟨fun h => ⟨h.1, fun piece hp => by simp [hc] at hp⟩, fun h => ⟨h.message, rfl⟩⟩
  | some piece =>
    dsimp only
    rw [← errorText, Text.contains_iff_infix]
    refine ⟨fun h => ⟨h.1, fun other ho => ?_⟩, fun h => ⟨h.message, h.contains piece hc⟩⟩
    obtain rfl := Option.some.inj (hc.symm.trans ho)
    exact h.2

/-- The record has an id of the vault, in whatever form. -/
def HasVault (vaultId : Value) (record : Record) : Prop :=
  ∃ id, record.fields.get? "vault_id" = some id ∧ id ≠ .null ∧ plainVaultId id = plainVaultId vaultId

theorem vaultId?_eq_some {vaultId : Value} {record : Record} :
    record.vaultId? = some (plainVaultId vaultId) ↔ HasVault vaultId record := by
  unfold Record.vaultId? Record.field HasVault
  cases hf : record.fields.get? "vault_id" with
  | none => simp
  | some id => cases id <;> simp

namespace Predicate

/-- The record breaks the predicate. A count is broken by no single record. -/
def Offends : Predicate → Record → Prop
  | count .., _ => False
  | noUnexpectedErrors allowed, record => record.level = .error ∧ ∀ error ∈ allowed, ¬error.Covers record
  | vaultExcluded vaultId message, record => record.carries message = true ∧ HasVault vaultId record
  | finalMessage message, record => ¬record.carries message = true

theorem isUnexpected_iff {allowed : List AllowedError} {record : Record} :
    isUnexpected allowed record = true ↔ (noUnexpectedErrors allowed).Offends record := by
  simp [isUnexpected, Offends, ← AllowedError.matchesRecord_iff]

theorem isAboutVault_iff {vaultId message : Value} {record : Record} :
    isAboutVault vaultId message record = true ↔ (vaultExcluded vaultId message).Offends record := by
  simp [isAboutVault, Offends, ← vaultId?_eq_some]

end Predicate

/-! ## Evidence -/

/-- A record is evidence against a predicate: it is what is read from the line with its number, and it offends. No
earlier line offends; or, against a last message, all later lines are blank. -/
structure Evidence (predicate : Predicate) (log : Text) (record : Record) (i : Nat) : Prop where
  line_at : log.lines[i]? = some record.raw
  number : record.lineNumber = (i + 1 : Nat)
  read : Record.ofLine record.raw (i + 1 : Nat) = .ok record
  offends : predicate.Offends record
  first : (∀ message, predicate ≠ .finalMessage message) → ∀ j < i, ∀ earlier other,
    log.lines[j]? = some earlier → Record.ofLine earlier (j + 1 : Nat) = .ok other → ¬predicate.Offends other
  last : ∀ message, predicate = .finalMessage message → ∀ j later, i < j → log.lines[j]? = some later →
    later.isBlank = true

variable {log : Text} {rs : List Record} {verdict : Verdict} {predicate : Predicate} {record : Record}

/-- The first record that offends is evidence. -/
theorem CitesFirst.evidence {kind : Record → Bool} (h : CitesFirst kind rs verdict)
    (hrs : Log.records log = .ok rs) (hk : ∀ other, kind other = true ↔ predicate.Offends other)
    (hp : ∀ message, predicate ≠ .finalMessage message) (hr : verdict.record = some record) :
    ∃ i, Evidence predicate log record i := by
  have hf : rs.find? kind = some record := h.record_eq.symm.trans hr
  obtain ⟨i, hl, hn, ho⟩ := Log.exists_line_of_mem hrs (List.mem_of_find?_eq_some hf)
  refine ⟨i, hl, hn, ho, (hk record).mp (List.find?_some hf), fun _ j hj earlier other he hother => ?_,
    fun message hm => absurd hm (hp message)⟩
  have hnot := Log.not_of_earlier_line hrs hf (by omega) he hother
  rw [← hk, hnot]
  exact Bool.false_ne_true

/-- The last record is evidence if it does not have the message. -/
theorem CitesLast.evidence {message : Value} (h : CitesLast (·.carries message) rs verdict)
    (hrs : Log.records log = .ok rs) (hr : verdict.record = some record) :
    ∃ i, Evidence (.finalMessage message) log record i := by
  obtain ⟨hlast, hc⟩ := h.cited hr
  obtain ⟨i, hl, hn, ho⟩ := Log.exists_line_of_mem hrs (List.mem_of_getLast? hlast)
  refine ⟨i, hl, hn, ho, ?_, fun hp => absurd rfl (hp message), fun _ _ j later hj hlater => ?_⟩
  · rw [Predicate.Offends, hc]
    exact Bool.false_ne_true
  · exact Log.isBlank_of_later_line hrs hlast (by omega) hlater

/-- **Predicates are judged by what the log shows, and what breaks them is cited.** On a well-formed log errors are as
expected iff every record of an error is allowed, and then their number is told; a vault is left alone iff no record of
any level has the message and an id of it; and the last message is as expected iff the record with the largest number
has it. A record is cited only by a failure and is evidence for it. The one failure that cites nothing is that of a last
message in a log without records. -/
theorem evidence_cited {log : Text} {rs : List Record} (h : Log.records log = .ok rs) :
    (∀ allowed,
      (((Predicate.noUnexpectedErrors allowed).verdict rs).passed = true ↔
        ∀ r ∈ rs, r.level = .error → ∃ error ∈ allowed, error.Covers r) ∧
      (((Predicate.noUnexpectedErrors allowed).verdict rs).passed = true →
        ((Predicate.noUnexpectedErrors allowed).verdict rs).detail =
          Text.ofNat (rs.countP (·.level = .error)) ++ " allowed error(s)")) ∧
    (∀ vaultId message, ((Predicate.vaultExcluded vaultId message).verdict rs).passed = true ↔
      ¬∃ r ∈ rs, r.carries message = true ∧ HasVault vaultId r) ∧
    (∀ message, ((Predicate.finalMessage message).verdict rs).passed = true ↔
      ∃ last ∈ rs, (∀ r ∈ rs, r.lineNumber ≤ last.lineNumber) ∧ last.carries message = true) ∧
    ∀ predicate,
      (∀ record, (predicate.verdict rs).record = some record →
        (predicate.verdict rs).passed = false ∧ ∃ i, Evidence predicate log record i) ∧
      ((∀ message expected level, predicate ≠ .count message expected level) →
        ((predicate.verdict rs).passed = false ∧ (predicate.verdict rs).record = none ↔
          rs = [] ∧ ∃ message, predicate = .finalMessage message)) := by
  refine ⟨fun allowed => ⟨?_, Predicate.noUnexpectedErrors_detail⟩, fun vaultId message => ?_, fun message => ?_,
    fun predicate => ⟨fun record hr => ?_, fun hcount => ?_⟩⟩
  · rw [(Predicate.noUnexpectedErrors_citesFirst allowed rs).passed_iff]
    simp only [Predicate.isUnexpected_iff, Predicate.Offends, not_and, Classical.not_forall, Classical.not_not,
      exists_prop]
  · rw [(Predicate.vaultExcluded_citesFirst vaultId message rs).passed_iff]
    simp only [Predicate.isAboutVault_iff, Predicate.Offends, not_exists, not_and]
  · rw [(Predicate.finalMessage_citesLast message rs).passed_iff]
    simp only [Log.getLast?_iff_largest h, and_assoc]
  · cases predicate with
    | count message expected level => cases hr
    | noUnexpectedErrors allowed =>
      have hc := Predicate.noUnexpectedErrors_citesFirst allowed rs
      exact ⟨hc.failed hr, hc.evidence h (fun _ => Predicate.isUnexpected_iff) (fun _ hp => by cases hp) hr⟩
    | vaultExcluded vaultId message =>
      have hc := Predicate.vaultExcluded_citesFirst vaultId message rs
      exact ⟨hc.failed hr, hc.evidence h (fun _ => Predicate.isAboutVault_iff) (fun _ hp => by cases hp) hr⟩
    | finalMessage message =>
      have hc := Predicate.finalMessage_citesLast message rs
      exact ⟨hc.failed hr, hc.evidence h hr⟩
  · cases predicate with
    | count message expected level => exact absurd rfl (hcount message expected level)
    | noUnexpectedErrors allowed =>
      have hc := Predicate.noUnexpectedErrors_citesFirst allowed rs
      simpa using fun hp hn => absurd (hc.passed_of_none hn) (Bool.eq_false_iff.mp hp)
    | vaultExcluded vaultId message =>
      have hc := Predicate.vaultExcluded_citesFirst vaultId message rs
      simpa using fun hp hn => absurd (hc.passed_of_none hn) (Bool.eq_false_iff.mp hp)
    | finalMessage message =>
      rw [(Predicate.finalMessage_citesLast message rs).failed_without]
      simp

/-- A log with a blank line and two errors, of which the second one reports none. -/
def failedTwice : Text :=
  "\x7b\"level\":\"ERROR\",\"fields\":\x7b\"message\":\"gas\",\"error\":\"out of gas\"\x7d\x7d\n\n" ++
    "\x7b\"level\":\"error\",\"fields\":\x7b\"message\":\"gas\",\"error\":null\x7d\x7d\n"

/-- Only the first one may happen. -/
def outOfGas : Predicate := .noUnexpectedErrors [⟨.string "gas", some (.ofString "out of")⟩]

/-- The second error is cited, and its line is the evidence. -/
theorem failedTwice_cited : ∃ rs record, Log.records failedTwice = .ok rs ∧
    (outOfGas.verdict rs).record = some record ∧ (outOfGas.verdict rs).passed = false ∧
    Evidence outOfGas failedTwice record 2 := by
  obtain ⟨rs, hrs⟩ := Result.isOk_iff.mp (show (Log.records failedTwice).isOk = true by decide +kernel)
  have hcited : (match Log.records failedTwice with
    | .ok rs => (outOfGas.verdict rs).record.map (·.lineNumber)
    | .error _ => none) = some 3 := by decide +kernel
  rw [hrs] at hcited
  obtain ⟨record, hr, hn⟩ := Option.map_eq_some_iff.mp hcited
  obtain ⟨-, -, -, hall⟩ := evidence_cited hrs
  obtain ⟨hp, i, he⟩ := (hall outOfGas).1 record hr
  have hi := he.number
  obtain rfl : i = 2 := by omega
  exact ⟨rs, record, hrs, hr, hp, he⟩

end LiquidationDrill.Scenario

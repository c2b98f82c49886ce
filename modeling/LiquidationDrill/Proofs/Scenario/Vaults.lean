import LiquidationDrill.Proofs.Log.VaultIds
import LiquidationDrill.Proofs.Scenario.Conjunction
import LiquidationDrill.Proofs.Scenario.Evidence

/-!
# Vaults are told by their digits

A vault that is named by its digits, however they are decorated, is left alone iff no record with the message shows the
same digits (`ShowsVault`), however these are decorated in the log. `vault_told_by_digits` says this of whole logs,
together with what the plain form of such an id is.
-/

namespace LiquidationDrill.Scenario

open Log (Record)
open Text (IsRow SameDigits)

/-- The record has the message, and shows the digits of the vault. -/
def ShowsVault (message : Value) (digits : Text) (record : Record) : Prop :=
  record.carries message = true ∧
    ∃ logged, record.fields.get? "vault_id" = some logged ∧ logged ≠ .null ∧ Decorates digits logged.display

section Shown

variable {digits : Text} {id message : Value}

/-- Where a vault is named by digits, what breaks the predicate is a record that shows them. -/
theorem isAboutVault_iff_showsVault (h : IsRow CodePoint.isHex digits) (hid : Decorates digits id.display)
    {record : Record} : Predicate.isAboutVault id message record = true ↔ ShowsVault message digits record := by
  rw [Predicate.isAboutVault_iff, Predicate.Offends, HasVault, (plainVaultId_eq_lower h).mpr hid]
  simp only [plainVaultId_eq_lower h, ShowsVault]

end Shown

/-- **A vault is told by its digits.** If an id shows digits, whatever their case, with or without a mark before them,
quotes around these and white space around it all, then its plain form is the digits in lower case, which are their own
plain form, and another such id has the same plain form iff it shows the same digits. So on every well-formed log the
predicate on the vault fails iff a record with the message shows its digits, and it cites the first such record. -/
theorem vault_told_by_digits {digits : Text} (h : IsRow CodePoint.isHex digits) {id : Value}
    (hid : Decorates digits id.display) :
    plainVaultId id = digits.lower ∧
    plainVaultId (.string (plainVaultId id)) = plainVaultId id ∧
    (∀ (others : Text) (other : Value), IsRow CodePoint.isHex others → Decorates others other.display →
      (plainVaultId id = plainVaultId other ↔ SameDigits digits others)) ∧
    ∀ log records message, Log.records log = .ok records →
      ∃ verdict, judge [.vaultExcluded id message] log = .ok [verdict] ∧
        (verdict.passed = false ↔ ∃ record ∈ records, ShowsVault message digits record) ∧
        ∀ record, verdict.record = some record ↔ ShowsVault message digits record ∧
          ∃ before after, records = before ++ record :: after ∧ ∀ earlier ∈ before, ¬ShowsVault message digits earlier := by
  refine ⟨(plainVaultId_eq_lower h).mpr hid, plainVaultId_plain h hid, fun others other ho hother =>
    plainVaultId_eq_iff h hid ho hother, fun log records message hrs => ?_⟩
  have hcites := Predicate.vaultExcluded_citesFirst id message records
  have hj : judge [.vaultExcluded id message] log = .ok (verdicts [.vaultExcluded id message] records) := by
    rw [judge, hrs]
    rfl
  refine ⟨_, hj, ?_, fun record => ?_⟩
  · rw [← Bool.not_eq_true, hcites.passed_iff]
    simp only [isAboutVault_iff_showsVault h hid, not_forall, not_not, exists_prop]
  · rw [hcites.cited_iff]
    simp only [isAboutVault_iff_showsVault h hid]

/-- A log about two vaults. The second one is shown twice: in capitals, between quotes and white space, and by its
digits alone. -/
def paidOff : Text :=
  "\x7b\"level\":\"INFO\",\"fields\":\x7b\"message\":\"paid\",\"vault_id\":\"00cc\"\x7d\x7d\n" ++
    "\x7b\"level\":\"INFO\",\"fields\":\x7b\"message\":\"paid\",\"vault_id\":\" \\\"0X00CB\\\"\"\x7d\x7d\n" ++
    "\x7b\"level\":\"INFO\",\"fields\":\x7b\"message\":\"paid\",\"vault_id\":\"00cb\"\x7d\x7d\n"

/-- Its digits in yet another form. -/
def spacedId : Decoration "00cb" where
  before := "\n"
  left := "\""
  mark := "0x"
  shown := "00Cb"
  right := "\"\""
  after := " "
  blank := by decide +kernel
  quotes := by decide
  mark_mem := by decide
  same := by decide

/-- The vault is found under all its forms, and the first record that shows it is cited. -/
theorem paidOff_cited : plainVaultId (.string spacedId.text) = "00cb" ∧ ∃ verdict record,
    judge [.vaultExcluded (.string spacedId.text) (.string "paid")] paidOff = .ok [verdict] ∧
      verdict.passed = false ∧ verdict.record = some record ∧ record.lineNumber = 2 ∧
      ShowsVault (.string "paid") "00cb" record := by
  obtain ⟨records, hrs⟩ := Result.isOk_iff.mp (show (Log.records paidOff).isOk = true by decide +kernel)
  have hcited : ((judge [.vaultExcluded (.string spacedId.text) (.string "paid")] paidOff).map
      (·.map fun verdict => verdict.record.map (·.lineNumber))).toOption = some [some 2] := by decide +kernel
  have hdigits : IsRow CodePoint.isHex ("00cb" : Text) := by decide
  have hid : Decorates "00cb" (Value.string spacedId.text).display := ⟨spacedId, rfl⟩
  obtain ⟨hplain, -, -, hlogs⟩ := vault_told_by_digits hdigits hid
  obtain ⟨verdict, hj, hfails, hfirst⟩ := hlogs paidOff records (.string "paid") hrs
  rw [hj] at hcited
  have hline : verdict.record.map (·.lineNumber) = some 2 := (List.cons.inj (Option.some.inj hcited)).1
  obtain ⟨record, hr, hn⟩ := Option.map_eq_some_iff.mp hline
  obtain ⟨hshows, before, after, happ, -⟩ := (hfirst record).mp hr
  have hmem : record ∈ records := by simp [happ]
  have hlower : Text.lower "00cb" = "00cb" := by decide +kernel
  exact ⟨hplain.trans hlower, verdict, record, hj, hfails.mpr ⟨record, hmem, hshows⟩, hr, hn, hshows⟩

end LiquidationDrill.Scenario

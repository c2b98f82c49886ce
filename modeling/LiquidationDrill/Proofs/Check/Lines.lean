import LiquidationDrill.Check
import LiquidationDrill.Proofs.Log.Places
import LiquidationDrill.Proofs.Scenario.Verdict
import LiquidationDrill.Proofs.Text.Encoded

/-!
# The lines of a report

The lines about judgements are written unless one of them holds a half of a surrogate pair (`tell_of_isScalar`); then
the command crashes after those before it (`tell_of_unwritable`). A log in UTF-8 holds no such halves, and a detail is
printable, so it depends on the names of the predicates alone (`lines_isScalar`), and of these only on those that name a
vault (`isScalar_name`).
-/

namespace LiquidationDrill.Check

open Scenario
open Log (Record)

/-! ## What cannot be written -/

/-- The name of a predicate on a vault can be written iff the plain form of the vault's id can. -/
theorem isScalar_vaultExcluded (vaultId message : Value) :
    (Predicate.vaultExcluded vaultId message).name.isScalar = (plainVaultId vaultId).isScalar := by
  have hmarks : Text.isScalar "vault " = true ∧ Text.isScalar " never in " = true := by decide
  have hmessage := (Value.quoted_printable message).isScalar
  simp only [Predicate.name, Text.isScalar_append, hmarks, hmessage, Bool.true_and, Bool.and_true]

/-- **The name of a predicate can be written**, if that of the vault it is about can. A count names a number. -/
theorem isScalar_name {predicate : Predicate}
    (hv : ∀ vaultId message, predicate = .vaultExcluded vaultId message → (plainVaultId vaultId).isScalar = true)
    (hc : ∀ message expected level, predicate = .count message expected level → ∃ n : Int, expected = .int n) :
    predicate.name.isScalar = true := by
  cases predicate with
  | vaultExcluded vaultId message =>
    rw [isScalar_vaultExcluded]
    exact hv vaultId message rfl
  | _ => exact (Predicate.name_printable (fun _ _ => by simp) hc).isScalar

section Lines

variable {t : Text} {predicates : List Predicate} {records : List Record}

/-- The line about a judgement can be written iff the name of its predicate can. -/
theorem isScalar_headline (predicate : Predicate) (records : List Record) :
    (headline (predicate.verdict records)).isScalar = predicate.name.isScalar := by
  have hdetail := (predicate.verdict_detail_printable records).isScalar
  have hmark (passed : Bool) : (if passed then ("PASS " : Text) else "FAIL ").isScalar = true := by
    cases passed <;> decide
  have hcolon : Text.isScalar ": " = true := by decide
  simp only [headline, Text.isScalar_append, hmark, hcolon, hdetail, predicate.verdict_name, Bool.true_and,
    Bool.and_true]

/-- What is cited of a log in UTF-8 can be written. -/
theorem isScalar_citation (h : Log.records t = .ok records) (ht : t.isScalar = true) {record : Record}
    (hr : record ∈ records) : (citation record).isScalar = true := by
  obtain ⟨i, hl, -, -⟩ := Log.exists_line_of_mem h hr
  have hraw : record.raw.isScalar = true :=
    Text.isScalar_of_subset ht ((Text.fallsInto_lines t).subset _ (List.mem_of_getElem? hl))
  have hnumber := (Text.ofInt_printable record.lineNumber).isScalar
  have hmarks : Text.isScalar "     line " = true ∧ Text.isScalar ": " = true := by decide
  simp only [citation, Text.isScalar_append, hraw, hnumber, hmarks, Bool.and_true]

/-- **What is said of a log in UTF-8 can be written iff the names of the predicates can.** -/
theorem lines_isScalar (h : Log.records t = .ok records) (ht : t.isScalar = true) :
    (∀ line ∈ (verdicts predicates records).flatMap linesOf, line.isScalar = true) ↔
      ∀ predicate ∈ predicates, predicate.name.isScalar = true := by
  constructor
  · intro hall predicate hp
    rw [← isScalar_headline predicate records]
    exact hall _ (List.mem_flatMap.mpr ⟨_, List.mem_map_of_mem hp, List.mem_cons_self⟩)
  · intro hall line hl
    obtain ⟨verdict, hv, hl⟩ := List.mem_flatMap.mp hl
    obtain ⟨predicate, hp, rfl⟩ := List.mem_map.mp hv
    rcases List.mem_cons.mp hl with rfl | hl
    · rw [isScalar_headline]
      exact hall predicate hp
    · obtain ⟨record, hr, rfl⟩ := List.mem_map.mp hl
      exact isScalar_citation h ht (Predicate.mem_of_cited (Option.mem_toList.mp hr))

end Lines

/-! ## What is written -/

/-- Lines as they are written, without control sequences. -/
def written (lines : List Text) : Text := lines.flatMap fun line : Text => (line ++ "\n").plain

/-- The judgements decide the code if all lines about them can be written. -/
theorem tell_of_isScalar {verdicts : List Verdict}
    (h : ∀ line ∈ verdicts.flatMap linesOf, line.isScalar = true) :
    tell verdicts =
      { code := if verdicts.all Verdict.passed then 0 else 1, output := written (verdicts.flatMap linesOf) } := by
  rw [tell, Text.echoedLines_of_isScalar h, written]

/-- A judgement that cannot be told crashes the command after those before it. -/
theorem tell_of_unwritable {told rest : List Verdict} {verdict : Verdict} {fault : Utf8.Unencodable}
    (h : ∀ line ∈ told.flatMap linesOf, line.isScalar = true) (hf : (headline verdict).echoed = .error fault) :
    tell (told ++ verdict :: rest) = .crashed (written (told.flatMap linesOf)) (.unencodable fault) := by
  rw [tell, List.flatMap_append, List.flatMap_cons, linesOf, List.cons_append, Text.echoedLines_append_cons h hf,
    written]

/-- A line that cannot be written crashes the command. -/
theorem tell_crashes {verdicts : List Verdict} (h : ∃ line ∈ verdicts.flatMap linesOf, line.isScalar = false) :
    ∃ output fault, tell verdicts = .crashed output (.unencodable fault) := by
  obtain ⟨before, line, after, fault, hsplit, hbefore, hf⟩ := Text.exists_first_unencodable h
  refine ⟨written before, fault, ?_⟩
  rw [tell, hsplit, Text.echoedLines_append_cons hbefore hf, written]

end LiquidationDrill.Check

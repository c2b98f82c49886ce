import LiquidationDrill.Proofs.Check.Options
import LiquidationDrill.Proofs.Scenario.Allowed

/-!
# Allowing more errors

A check ends with code 0 only if its log is well-formed, all judgements pass and all lines about them can be written
(`report_code_eq_zero`). So if more errors are allowed, and nothing else is asked for, it ends as it did, with the same
output (`report_allowing`). `allowed_monotone`
says of lists of allowed errors that they are judged as sets, that more of them break nothing, and what this means for
the flags of a check.
-/

namespace LiquidationDrill.Check

open CommandLine Scenario
open Log (Record)

section Reports

variable {bytes : List UInt8}

/-- A check ends with code 0 iff the log is well-formed, every judgement passes and all lines can be written. -/
theorem report_code_eq_zero {predicates : List Predicate} (hn : predicates.all Predicate.isNameable = true) :
    (report predicates bytes).code = 0 ↔
      ∃ t records, Utf8.decode bytes = .ok t ∧ Log.records t = .ok records ∧
        (∀ line ∈ (verdicts predicates records).flatMap linesOf, line.isScalar = true) ∧
        ∀ verdict ∈ verdicts predicates records, verdict.passed = true := by
  constructor
  · intro hcode
    rcases report_ends hn bytes with ⟨-, t, records, hd, hr, htold⟩ | ⟨-, -, hc, -⟩ | ⟨-, -, crash, hc⟩
    · rw [htold] at hcode
      have hlines : ∀ line ∈ (verdicts predicates records).flatMap linesOf, line.isScalar = true := by
        intro line hl
        by_contra hline
        obtain ⟨output, fault, hcrash⟩ := tell_crashes ⟨line, hl, Bool.not_eq_true _ ▸ hline⟩
        rw [hcrash] at hcode
        cases hcode
      refine ⟨t, records, hd, hr, hlines, List.all_eq_true.mp ?_⟩
      rw [tell_of_isScalar hlines] at hcode
      by_contra hall
      rw [if_neg hall] at hcode
      cases hcode
    · rw [hcode] at hc
      cases hc
    · rw [hc] at hcode
      cases hcode
  · rintro ⟨t, records, hd, hr, hlines, hall⟩
    rw [report_of_records predicates hn hd hr, tell_of_isScalar hlines, List.all_eq_true.mpr hall]
    rfl

/-- **A check that ends with code 0 ends the same if more errors are allowed.** -/
theorem report_allowing {options : Options} {allowed : List AllowedError} (h : AllIncluded options.allowed allowed)
    (hn : options.predicates.all Predicate.isNameable = true)
    (hn' : { options with allowed }.predicates.all Predicate.isNameable = true)
    (hcode : (report options.predicates bytes).code = 0) :
    report { options with allowed }.predicates bytes = report options.predicates bytes := by
  obtain ⟨t, records, hd, hr, -, hall⟩ := (report_code_eq_zero hn).mp hcode
  have hm : .noUnexpectedErrors options.allowed ∈ options.predicates :=
    Options.mem_predicates.mpr (Or.inr (Or.inl rfl))
  have hv := h.verdict_eq (hall _ (List.mem_map_of_mem hm))
  have hverdicts : verdicts { options with allowed }.predicates records = verdicts options.predicates records := by
    simp only [verdicts, Options.predicates, List.map_append, List.map_cons, hv]
  rw [report_of_records _ hn' hd hr, report_of_records _ hn hd hr, hverdicts]

end Reports

/-- **Allowed errors are judged as a set, and more of them break nothing.** Where every error of a list is included in
one of a wider list, a judgement that passes with the former is the same with the latter; and one that fails with the
latter fails with the former, at the same record or an earlier one. So neither order nor repetition matters. A check
that ends with code 0 ends the same, with code 0, if the errors that its flags allow are included in those of other
flags that ask for nothing else; and a flag with an empty piece includes every flag with its message. -/
theorem allowed_monotone :
    (∀ narrow wide, AllIncluded narrow wide → ∀ records,
      (((Predicate.noUnexpectedErrors narrow).verdict records).passed = true →
        (Predicate.noUnexpectedErrors wide).verdict records =
          (Predicate.noUnexpectedErrors narrow).verdict records) ∧
      (((Predicate.noUnexpectedErrors wide).verdict records).passed = false → ∃ i j, i ≤ j ∧
        FailsAt (.noUnexpectedErrors narrow) records i ∧ FailsAt (.noUnexpectedErrors wide) records j)) ∧
    (∀ errors others : List AllowedError, (∀ error, error ∈ errors ↔ error ∈ others) → ∀ records,
      (Predicate.noUnexpectedErrors errors).verdict records =
        (Predicate.noUnexpectedErrors others).verdict records) ∧
    (∀ find? arguments others options allowed bytes, Asks find? arguments options bytes →
      Asks find? others { options with allowed } bytes → AllIncluded options.allowed allowed →
        (run find? arguments).code = 0 → run find? others = run find? arguments) ∧
    ∀ message piece, ∃ every one, allowSetting message [] = .ok (.allow every) ∧
      allowSetting message piece = .ok (.allow one) ∧ every.Includes one := by
  refine ⟨fun narrow wide h records => ⟨h.verdict_eq, fun hf => ?_⟩, fun errors others h records => ?_,
    fun find? arguments others options allowed bytes ha ho h hcode => ?_, fun message piece => ?_⟩
  · obtain ⟨j, hj⟩ := exists_failsAt hf
    obtain ⟨i, hij, hi⟩ := h.failsAt hj
    exact ⟨i, j, hij, hi, hj⟩
  · have hto : AllIncluded errors others := .of_subset fun error he => (h error).mp he
    have hfrom : AllIncluded others errors := .of_subset fun error he => (h error).mpr he
    exact hfrom.verdict_eq_of_both hto records
  · rw [run_of_asks ha] at hcode ⊢
    rw [run_of_asks ho, report_allowing h (all_isNameable_of_asks ha) (all_isNameable_of_asks ho) hcode]
  · exact ⟨_, _, rfl, rfl, rfl, fun _ he => by cases he⟩

/-- A log of one error. -/
def ranOut : Text := "\x7b\"level\":\"ERROR\",\"fields\":\x7b\"message\":\"gas\",\"error\":\"out of gas\"\x7d\x7d\n"

/-- Errors of this kind are allowed. -/
def gasAllowed (piece : Text) : Options :=
  ⟨[], [⟨.string "gas", if piece.isEmpty then none else some piece⟩], [], none⟩

theorem gasAllowed_asked (piece : Text) :
    Asks (holding ranOut.utf8) ["check", "log", "--allow-error", "gas", piece] (gasAllowed piece) ranOut.utf8 := by
  exact ⟨["log", "--allow-error", "gas", piece], _,
    [.allow ⟨.string "gas", if piece.isEmpty then none else some piece⟩], .ofString "log", rfl, rfl, rfl, rfl, rfl, rfl,
    rfl⟩

/-- Where a piece of the error is allowed, the check ends as it does where any error with the message is. -/
theorem ranOut_allowed :
    (run (holding ranOut.utf8) ["check", "log", "--allow-error", "gas", "of gas"]).code = 0 ∧
      run (holding ranOut.utf8) ["check", "log", "--allow-error", "gas", []] =
        run (holding ranOut.utf8) ["check", "log", "--allow-error", "gas", "of gas"] := by
  have hcode : (run (holding ranOut.utf8) ["check", "log", "--allow-error", "gas", "of gas"]).code = 0 := by
    decide +kernel
  have hincluded : AllIncluded (gasAllowed "of gas").allowed (gasAllowed []).allowed := by
    intro error he
    obtain rfl := List.mem_singleton.mp he
    exact ⟨_, List.mem_singleton_self _, rfl, fun _ hp => by cases hp⟩
  exact ⟨hcode, allowed_monotone.2.2.1 _ _ _ _ _ _ (gasAllowed_asked "of gas") (gasAllowed_asked []) hincluded hcode⟩

end LiquidationDrill.Check

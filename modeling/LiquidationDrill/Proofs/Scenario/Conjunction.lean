import LiquidationDrill.Proofs.Log.Records
import LiquidationDrill.Proofs.Scenario.Verdict
import LiquidationDrill.Proofs.Value.Showable

/-!
# A scenario is the conjunction of its predicates

A log is read as a whole before the first predicate is judged: its first rejected line decides whatever is expected of
it (`evaluate_of_rejected`), and otherwise each predicate is judged on all records (`evaluate_of_records`), if all of
them have names: only a count can have none (`isNameable_of_texts`). Judgements settle a scenario (`Settles`,
`verdicts_settle`): all of them are its answer, or those that are broken are its failure. So two lists of predicates, one
after the other, hold iff both hold, and fail with the failures of both (`fails_append_iff`, `broken_append`).
`judged_as_conjunction` puts this together for every log.
-/

namespace LiquidationDrill.Scenario

open Log (Record Accepted FirstRejected)

variable {predicates : List Predicate} {log : Text}

/-! ## The log before the predicates -/

/-- **No judgement is made on a log that is rejected**, and the fault is that of its first rejected line. -/
theorem evaluate_of_rejected {i : Nat} {line : Text} {fault : Log.Fault}
    (h : FirstRejected 1 log.lines i line fault) : evaluate predicates log = .error (.log fault) := by
  have hr : judge predicates log = .error fault := by
    rw [judge, Result.map_eq_error, Log.records_eq, Log.recordsFrom_eq_error]
    exact ⟨i, line, h⟩
  rw [evaluate, hr]

section Records

variable {records : List Record} (hr : Log.records log = .ok records)

include hr

/-- **On a well-formed log all predicates are judged on all its records**, if they have names. -/
theorem evaluate_of_records (hn : ∀ predicate ∈ predicates, predicate.isNameable = true) :
    evaluate predicates log = .ok (verdicts predicates records) := by
  rw [evaluate, judge, hr]
  exact if_pos (List.all_eq_true.mpr hn)

/-- And otherwise none is. -/
theorem evaluate_of_unnamed (hn : ∃ predicate ∈ predicates, predicate.isNameable = false) :
    evaluate predicates log = .error (.unnamed .numeralTooLong) := by
  rw [evaluate, judge, hr]
  refine if_neg fun hall => ?_
  obtain ⟨predicate, hp, hname⟩ := hn
  rw [List.all_eq_true.mp hall predicate hp] at hname
  cases hname

end Records

/-- A rejected line is the first one, or the first one stands before it. -/
theorem exists_firstRejected {i : Nat} {line : Text} (hl : log.lines[i]? = some line) (h : ¬Accepted (i + 1) line) :
    ∃ j first fault, j ≤ i ∧ FirstRejected 1 log.lines j first fault := by
  cases hr : Log.recordsFrom 1 log.lines with
  | ok records => exact absurd (Log.recordsFrom_isOk.mp ⟨records, hr⟩ i line hl) h
  | error fault =>
    obtain ⟨j, first, hf⟩ := Log.recordsFrom_eq_error.mp hr
    refine ⟨j, first, fault, ?_, hf⟩
    rw [← Nat.not_lt]
    intro hij
    exact h (hf.before i hij line hl)

/-- **Of the predicates about texts and numbers only counts of more than 4300 digits have no names.** -/
theorem isNameable_of_texts :
    (∀ message expected level, (Predicate.count (.string message) (.int expected) level).isNameable = true ↔
      (Nat.digits 10 expected.natAbs).length ≤ 4300) ∧
    (∀ allowed, (Predicate.noUnexpectedErrors allowed).isNameable = true) ∧
    (∀ vaultId message, (Predicate.vaultExcluded (.string vaultId) (.string message)).isNameable = true) ∧
    ∀ message, (Predicate.finalMessage (.string message)).isNameable = true := by
  refine ⟨fun message expected level => ?_, fun _ => rfl, fun _ _ => rfl, fun _ => rfl⟩
  exact Value.isShowable_int

/-! ## Judgements -/

/-- Judgements settle a scenario. There is one for each predicate, in order, and it depends on nothing but its predicate
and the records. They are the answer if all of them passed; otherwise the scenario fails with those that did not, in
order. -/
structure Settles (scenario : Text) (predicates : List Predicate) (records : List Record) (verdicts : List Verdict) :
    Prop where
  length_eq : verdicts.length = predicates.length
  own : ∀ i : Nat, verdicts[i]? = predicates[i]?.map (·.verdict records)
  holds : (∀ verdict ∈ verdicts, verdict.passed = true) → check scenario verdicts = .ok verdicts
  fails : (∃ verdict ∈ verdicts, verdict.passed = false) →
    check scenario verdicts = .error ⟨scenario, verdicts.filter (!·.passed)⟩

variable (scenario : Text)

/-- **The judgements on records settle every scenario.** -/
theorem verdicts_settle (predicates : List Predicate) (records : List Record) :
    Settles scenario predicates records (verdicts predicates records) where
  length_eq := List.length_map _
  own i := List.getElem?_map
  holds h := by
    rw [check_eq, if_pos (List.all_eq_true.mpr h)]
  fails h := by
    obtain ⟨verdict, hv, hp⟩ := h
    rw [check_eq, if_neg]
    intro hall
    rw [List.all_eq_true.mp hall verdict hv] at hp
    cases hp

/-- A scenario fails iff a judgement did not pass. -/
theorem check_fails_iff {verdicts : List Verdict} :
    (∃ failure, check scenario verdicts = .error failure) ↔ ∃ verdict ∈ verdicts, verdict.passed = false := by
  rw [check_eq]
  by_cases hall : verdicts.all Verdict.passed = true
  · rw [if_pos hall]
    rw [List.all_eq_true] at hall
    constructor
    · rintro ⟨failure, h⟩
      cases h
    · rintro ⟨verdict, hv, hp⟩
      rw [hall verdict hv] at hp
      cases hp
  · rw [if_neg hall]
    rw [Bool.not_eq_true, List.all_eq_false] at hall
    obtain ⟨verdict, hv, hp⟩ := hall
    exact ⟨fun _ => ⟨verdict, hv, Bool.not_eq_true _ ▸ hp⟩, fun _ => ⟨_, rfl⟩⟩

variable (predicates others : List Predicate) (records : List Record)

/-- The judgements on further predicates come after the others. -/
theorem verdicts_append :
    verdicts (predicates ++ others) records = verdicts predicates records ++ verdicts others records :=
  List.map_append

/-- **A scenario fails on two lists of predicates iff it fails on one of them.** -/
theorem fails_append_iff :
    (∃ failure, check scenario (verdicts (predicates ++ others) records) = .error failure) ↔
      (∃ failure, check scenario (verdicts predicates records) = .error failure) ∨
        ∃ failure, check scenario (verdicts others records) = .error failure := by
  simp only [check_fails_iff, verdicts_append, List.mem_append, or_and_right, exists_or]

/-- **And with the failures of both.** -/
theorem broken_append :
    broken (check scenario (verdicts (predicates ++ others) records)) =
      broken (check scenario (verdicts predicates records)) ++ broken (check scenario (verdicts others records)) := by
  rw [broken_check, broken_check, broken_check, verdicts_append, List.filter_append]

/-! ## Logs -/

/-- **A scenario is the conjunction of its predicates on a log that is well-formed as a whole.** If a line is rejected,
wherever it stands, the first rejected line decides: neither judging nor checking gives anything but its fault, even if
nothing is expected or an earlier part of the log breaks a predicate. Otherwise judging the log is judging its records;
the judgements settle the scenario; and with further predicates it fails iff it fails on the former or on the latter,
with the failures of both in order. Only predicates without names stop the scenario, and of those about texts and numbers
only a count of more than 4300 digits has none. -/
theorem judged_as_conjunction (scenario log : Text) :
    ((∀ message expected level, (Predicate.count (.string message) (.int expected) level).isNameable = true ↔
        (Nat.digits 10 expected.natAbs).length ≤ 4300) ∧
      (∀ allowed, (Predicate.noUnexpectedErrors allowed).isNameable = true) ∧
      (∀ vaultId message, (Predicate.vaultExcluded (.string vaultId) (.string message)).isNameable = true) ∧
      ∀ message, (Predicate.finalMessage (.string message)).isNameable = true) ∧
    (∀ i line, log.lines[i]? = some line → ¬Accepted (i + 1) line →
      ∃ j first fault, j ≤ i ∧ FirstRejected 1 log.lines j first fault ∧ ∀ predicates,
        evaluate predicates log = .error (.log fault) ∧
        (evaluate predicates log).map (check scenario) = .error (.log fault)) ∧
    ((∀ i line, log.lines[i]? = some line → Accepted (i + 1) line) →
      ∃ records, Log.records log = .ok records ∧ ∀ predicates,
        ((∀ predicate ∈ predicates, predicate.isNameable = true) →
          evaluate predicates log = .ok (verdicts predicates records) ∧
          (evaluate predicates log).map (check scenario) = .ok (check scenario (verdicts predicates records)) ∧
          Settles scenario predicates records (verdicts predicates records) ∧
          ∀ others,
            ((∃ failure, check scenario (verdicts (predicates ++ others) records) = .error failure) ↔
              (∃ failure, check scenario (verdicts predicates records) = .error failure) ∨
                ∃ failure, check scenario (verdicts others records) = .error failure) ∧
            broken (check scenario (verdicts (predicates ++ others) records)) =
              broken (check scenario (verdicts predicates records)) ++
                broken (check scenario (verdicts others records))) ∧
        ((∃ predicate ∈ predicates, predicate.isNameable = false) →
          evaluate predicates log = .error (.unnamed .numeralTooLong) ∧
          (evaluate predicates log).map (check scenario) = .error (.unnamed .numeralTooLong))) := by
  refine ⟨isNameable_of_texts, ?_, ?_⟩
  · intro i line hl hr
    obtain ⟨j, first, fault, hj, hf⟩ := exists_firstRejected hl hr
    refine ⟨j, first, fault, hj, hf, fun predicates => ?_⟩
    have he : evaluate predicates log = .error (.log fault) := evaluate_of_rejected hf
    exact ⟨he, Result.map_eq_error.mpr he⟩
  · intro h
    obtain ⟨records, hr⟩ := Log.recordsFrom_isOk.mpr h
    rw [← Log.records_eq] at hr
    refine ⟨records, hr, fun predicates => ⟨fun hn => ?_, fun hn => ?_⟩⟩
    · have he := evaluate_of_records hr hn
      exact ⟨he, Result.map_eq_ok.mpr ⟨_, he, rfl⟩, verdicts_settle scenario predicates records, fun others =>
        ⟨fails_append_iff scenario predicates others records, broken_append scenario predicates others records⟩⟩
    · have he := evaluate_of_unnamed hr hn
      exact ⟨he, Result.map_eq_error.mpr he⟩

end LiquidationDrill.Scenario

import LiquidationDrill.Scenario.Predicate
import LiquidationDrill.Value.Arithmetic

/-!
# Expectations

A scenario expects several predicates to hold of one log. All of them are judged; the log is read as a whole before
the first one is.

- `Scenario.verdicts`: the judgements on records; `Scenario.judge`: on a log;
- `Scenario.evaluate`: the judgements on a log, where every predicate has to have a name;
- `Scenario.check`: the judgements, or a failure that names every predicate that is broken.
-/

namespace LiquidationDrill.Scenario

open Log (Record)

/-- The judgements of predicates, in their order. -/
def verdicts (predicates : List Predicate) (records : List Record) : List Verdict :=
  predicates.map (·.verdict records)

/-- The judgements on a log, which has to be well-formed even if there are no predicates. -/
def judge (predicates : List Predicate) (log : Text) : Except Log.Fault (List Verdict) :=
  (Log.records log).map (verdicts predicates)

/-- Why a log is not judged. -/
inductive Unjudged where
  | log (fault : Log.Fault)
  /-- A predicate has no name. -/
  | unnamed (fault : Value.Fault)

/-- The judgements on a log. Only after the log is read are the predicates named. -/
def evaluate (predicates : List Predicate) (log : Text) : Except Unjudged (List Verdict) :=
  match judge predicates log with
  | .error fault => .error (.log fault)
  | .ok verdicts =>
    if predicates.all Predicate.isNameable then .ok verdicts else .error (.unnamed .numeralTooLong)

/-- A scenario whose expectations were broken. -/
structure Failure where
  scenario : Text
  failures : List Verdict

/-- The judgements if all predicates hold, and otherwise those that are broken. -/
def check (scenario : Text) (verdicts : List Verdict) : Except Failure (List Verdict) :=
  match verdicts.filter (!·.passed) with
  | [] => .ok verdicts
  | failures => .error ⟨scenario, failures⟩

/-- The lines that a broken predicate takes in the report of a failure. -/
def Verdict.report (verdict : Verdict) : List Text :=
  ("  " ++ verdict.name ++ ": " ++ verdict.detail) ::
    match verdict.record with
    | none => []
    | some record => ["    offending record (line " ++ Text.ofInt record.lineNumber ++ "): " ++ record.raw]

/-- The report of a failure. -/
def Failure.message (failure : Failure) : Text :=
  Text.join "\n"
    ((failure.scenario ++ ": " ++ Text.ofNat failure.failures.length ++ " expectation(s) failed") ::
      failure.failures.flatMap Verdict.report)

end LiquidationDrill.Scenario

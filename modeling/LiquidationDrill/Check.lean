import LiquidationDrill.Exit
import LiquidationDrill.Folder
import LiquidationDrill.Scenario.Expectation
import LiquidationDrill.Text.File

/-!
# Checking a captured log

The program `cli` has one command, `check`, which judges a log file by predicates that its flags describe.

- `Check.countSetting`: what a value of `--count` asks for;
- `Check.command`: the flags and the operand;
- `Check.linesOf`: the lines about a judgement;
- `Check.judgeFile`, `Check.run`: how the command ends.
-/

namespace LiquidationDrill.Check

open CommandLine Scenario

/-- What the arguments ask for. -/
inductive Setting where
  | logFile (bytes : List UInt8)
  | count (message : Text) (expected : Int)
  | allow (allowed : AllowedError)
  | exclude (vaultId : Text)
  | final (message : Text)

/-! ## Arguments -/

/-- A count is a message, an equals sign and a number; the last equals sign counts. -/
def countSetting (value : Text) : Except Refusal Setting :=
  match value.splitAtLast? '=' with
  | some (c :: message, number) =>
    match number.toInt? with
    | some n => .ok (.count (c :: message) n)
    | none => .error (.because (number.quoted ++ " is not a number"))
  | _ => .error (.because ("expected MESSAGE=N, got " ++ value.quoted))

/-- An empty piece tolerates every error with the message. -/
def allowSetting (message piece : Text) : Except Refusal Setting :=
  .ok (.allow ⟨message, if piece.isEmpty then none else some piece⟩)

/-- A file name, with the replacement character for each of its bytes that is no UTF-8. -/
def shownFileName (bytes : List UInt8) : Text := (Utf8.decodeLossy bytes).quoted

/-- The log has to be a file; `find?` tells what a name leads to. -/
def logFileSetting (find? : Text → Option Entry) (name : Text) : Except Refusal Setting :=
  match name.systemBytes with
  | .error fault => .error (.unusableName fault)
  | .ok bytes =>
    match find? name with
    | some (.file bytes) => .ok (.logFile bytes)
    | some .folder => .error (.because ("File " ++ shownFileName bytes ++ " is a directory."))
    | none => .error (.because ("File " ++ shownFileName bytes ++ " does not exist."))

/-- The program that holds the command. -/
def group : Group where
  path := "cli"
  about := "Checks captured liquidator logs."
  commands := ["check"]

/-- The command, where `find?` tells what a name leads to. -/
def command (find? : Text → Option Entry) : Command Setting where
  path := "cli check"
  flags := [
    { name := "--count", reader := .one countSetting, isRepeatable := true
      about := "MESSAGE=N: exactly N INFO records with this message" },
    { name := "--allow-error", reader := .two allowSetting, isRepeatable := true, metavar := "MESSAGE SUBSTRING"
      about := "tolerated ERROR record; an empty SUBSTRING allows any error" },
    { name := "--exclude-vault", reader := .one fun id => .ok (.exclude id), isRepeatable := true
      about := "vault id that must never be submitted for liquidation" },
    { name := "--final-message", reader := .one fun message => .ok (.final message)
      about := "message of the last record" }]
  operand := some { name := "LOGFILE", read := logFileSetting find? }

/-- The predicates that settings describe: the counts, the errors, the vaults and the last message. -/
def predicates (settings : List Setting) : List Predicate :=
  let counts := settings.filterMap fun
    | .count message expected => some (.count message (.int expected) .info)
    | _ => none
  let allowed := settings.filterMap fun
    | .allow allowed => some allowed
    | _ => none
  let excluded := settings.filterMap fun
    | .exclude vaultId => some (.vaultExcluded vaultId liquidation)
    | _ => none
  let final := settings.filterMap fun
    | .final message => some (.finalMessage message)
    | _ => none
  counts ++ [.noUnexpectedErrors allowed] ++ excluded ++ final

/-! ## Judging -/

/-- The line about a judgement. -/
def headline (verdict : Verdict) : Text :=
  (if verdict.passed then ("PASS " : Text) else "FAIL ") ++ verdict.name ++ ": " ++ verdict.detail

/-- The line about a record that a judgement cites. -/
def citation (record : Log.Record) : Text := "     line " ++ Text.ofInt record.lineNumber ++ ": " ++ record.raw

/-- The lines about a judgement. -/
def linesOf (verdict : Verdict) : List Text := headline verdict :: verdict.record.toList.map citation

/-- The judgements on the bytes of a log file. -/
def judgeFile (predicates : List Predicate) (bytes : List UInt8) : Except Crash (List Verdict) :=
  match Text.ofFile bytes with
  | .error malformed => .error (.undecodable malformed)
  | .ok log =>
    match evaluate predicates log with
    | .error (.log fault) => .error (.log fault)
    | .error (.unnamed fault) => .error (.unnameable fault)
    | .ok verdicts => .ok verdicts

/-- How the command ends that tells judgements: the lines before one that cannot be written are written. -/
def tell (verdicts : List Verdict) : Exit :=
  match Text.echoedLines (verdicts.flatMap linesOf) with
  | (output, some fault) => .crashed output (.unencodable fault)
  | (output, none) => { code := if verdicts.all Verdict.passed then 0 else 1, output }

/-- How the command ends that reports a malformed line. -/
def complain (reason : Log.Reason) (place : Option Log.Place) : Exit where
  code := 2
  errors := ("malformed log: " ++ (Log.Fault.malformed reason place).message ++ "\n").plain.reported

/-- How the command ends for predicates and a log file. -/
def report (predicates : List Predicate) (bytes : List UInt8) : Exit :=
  match judgeFile predicates bytes with
  | .ok verdicts => tell verdicts
  | .error (.log (.malformed reason place)) => complain reason place
  | .error crash => .crashed [] crash

/-- How the command ends for settings. The log file is always among them. -/
def settled (settings : List Setting) : Exit :=
  let bytes := settings.findSome? fun
    | .logFile bytes => some bytes
    | _ => none
  report (predicates settings) (bytes.getD [])

/-- How the program ends for arguments. -/
def run (find? : Text → Option Entry) (arguments : List Text) : Exit :=
  match group.choose arguments with
  | .error stop => .notRun group.usage group.help stop
  | .ok (_, arguments) =>
    match (command find?).settings arguments with
    | .error stop => .notRun (command find?).usage (command find?).help stop
    | .ok settings => settled settings

end LiquidationDrill.Check

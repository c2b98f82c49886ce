import LiquidationDrill.CommandLine.Help
import LiquidationDrill.Log.Fault
import LiquidationDrill.Node.Script
import LiquidationDrill.Text.File

/-!
# Ends of commands

A command ends with a code, with what it wrote, and perhaps with a crash, which no one reported.

- `Exit`: the end of a command, with `Exit.shownOutput` and `Exit.shownErrors`, what a reader sees of it;
- `Crash`: what stops a command without a report;
- `Exit.notRun`: the end of a command whose arguments do not let it run.
-/

namespace LiquidationDrill

/-- What stops a command without a report. -/
inductive Crash where
  /-- A file is no text. -/
  | undecodable (malformed : Utf8.Malformed)
  /-- A line of output cannot be written. -/
  | unencodable (fault : Utf8.Unencodable)
  /-- A log is at fault, and not by a malformed line. -/
  | log (fault : Log.Fault)
  /-- A predicate has no name. -/
  | unnameable (fault : Value.Fault)
  /-- The system cannot be given a file name. -/
  | unusableName (fault : SystemFault)
  /-- A script failed. -/
  | script (failure : Failure)

/-- The wording of a crash. -/
def Crash.message : Crash → Text
  | undecodable malformed => malformed.message
  | unencodable fault => fault.message
  | log fault => fault.message
  | unnameable fault => fault.message
  | unusableName fault => fault.message
  | script failure => failure.message

/-- How a command ends. -/
structure Exit where
  code : Nat
  output : Text := []
  errors : Text := []
  uncaught : Option Crash := none

namespace Exit

/-- The output as it is shown: a carriage return is part of the line end after it. -/
def shownOutput (exit : Exit) : Text := exit.output.dropPairedReturns

/-- The errors as they are shown. -/
def shownErrors (exit : Exit) : Text := exit.errors.dropPairedReturns

/-- The end of a command that was misused. -/
def misused (usage : CommandLine.Usage) (misuse : CommandLine.Misuse) : Exit :=
  { code := 2, errors := (usage.report misuse).reported }

/-- The end of a command that crashes after some output. -/
def crashed (output : Text) (crash : Crash) : Exit := { code := 1, output, uncaught := some crash }

/-- The end of a command that was not run. -/
def notRun (usage : CommandLine.Usage) (help : Text) : CommandLine.Stop → Exit
  | .help => { code := 0, output := help.plain }
  | .misuse misuse => misused usage misuse
  | .unusableName fault => crashed [] (.unusableName fault)

end Exit

end LiquidationDrill

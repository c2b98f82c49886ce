import LiquidationDrill.Launch.Options
import LiquidationDrill.Launch.ShellWords
import LiquidationDrill.Log.Stream
import LiquidationDrill.Notice
import LiquidationDrill.Text.Encoded
import LiquidationDrill.Text.File

/-!
# Running the liquidator

The liquidator is started as a program of its own. It exits or runs out of time; either way what it wrote is kept in
files.

- `Launch.Start`: what is started; `Launch.Ending`: what becomes of it;
- `Launch.command`: the command that starts the liquidator unless another one is given;
- `Launch.run`: what is started, told and kept, and how it ends.
-/

namespace LiquidationDrill.Launch

/-! ## Starting -/

/-- Variables of the environment. -/
abbrev Environment := List (Text × Text)

/-- The variable that holds the command. -/
def commandVariable : Text := "LIQUIDATOR_COMMAND"

/-- Starts the liquidator from its sources. -/
def defaultCommand : Text := "cargo run --"

/-- The command that starts the liquidator. -/
def command (environment : Environment) : Except ShellWords.Fault (List Text) :=
  ShellWords.split ((environment.lookup commandVariable).getD defaultCommand)

/-- The variables that the liquidator is started with unless the environment has them. -/
def defaultEnvironment : Environment :=
  [("RUST_BACKTRACE", "1"), ("RUST_LOG", "liquidator,yield_liquidator=debug")]

/-- Variables over defaults. -/
def Environment.over (environment defaults : Environment) : Environment :=
  defaults.filter (fun (name, _) => (environment.lookup name).isNone) ++ environment

/-- Seconds after which a run that goes on is ended. -/
def defaultTimeout : Value := .int (30 * 60)

/-- A program as it is started. -/
structure Start where
  argv : List Text
  environment : Environment
  /-- Null where the program may go on for ever. -/
  timeout : Value

/-- What becomes of a program that is started. -/
inductive Ending where
  /-- It exits with a code after writing these bytes. -/
  | exited (code : Int) (output errors : List UInt8)
  /-- It goes on until its time is over; what it wrote by then may not be known. -/
  | timedOut (output errors : Option (List UInt8))

/-! ## Running -/

/-- A program that exited. -/
structure Finished where
  code : Int
  output : Text
  errors : Text

/-- The program did what it was to do. -/
def Finished.succeeded (finished : Finished) : Bool := finished.code = 0

/-- The records of the log that the program wrote. -/
def Finished.records (finished : Finished) : Except Log.Fault (List Log.Record) := Log.records finished.output

/-- Why a run fails. -/
inductive RunFault where
  /-- The command is no sequence of words. -/
  | badCommand (fault : ShellWords.Fault)
  /-- The program wrote what is no text. -/
  | undecodable (malformed : Utf8.Malformed)
  | timedOut (argv : List Text) (timeout : Value)
  /-- An argument cannot be shown. -/
  | unshowable (fault : Value.Fault)
  /-- The argument at a position is no text. -/
  | notText (position : Nat) (argument : Value)
  /-- The system cannot be given an argument. -/
  | unusable (fault : SystemFault)

/-- The wording of a fault. -/
def RunFault.message : RunFault → Text
  | badCommand fault => fault.message
  | undecodable malformed => malformed.message
  | timedOut argv timeout =>
    "liquidator did not exit within " ++ timeout.display ++ "s: " ++ Text.join " " argv
  | unshowable fault => fault.message
  | notText position argument =>
    "sequence item " ++ Text.ofNat position ++ ": expected str instance, " ++ argument.kind ++ " found"
  | unusable fault => fault.message

/-- What a run leaves. -/
structure Report where
  start : Option Start := none
  notices : List Notice := []
  /-- The files in the folder of the run, by name. -/
  files : List (Text × Text) := []
  result : Except RunFault Finished

/-- The output and the errors as files. -/
def outputFiles (output errors : Text) : List (Text × Text) := [("stdout", output), ("stderr", errors)]

/-- What was captured of a program that ran out of time. -/
def captured (bytes : Option (List UInt8)) : Text := Utf8.decodeLossy (bytes.getD [])

/-- What is told about a program that exited. -/
def exitNotices (folder : Text) (code : Int) : List Notice :=
  Notice.info ("tmp root: " ++ folder) ::
    if code = 0 then [] else [.warning ("Liquidator exited with code " ++ Text.ofInt code)]

/-- What is told before a program is started. -/
def Start.announcement (start : Start) : Notice := .info ("Running liquidator: " ++ Text.join " " start.argv)

/-- What a started program leaves in a folder by its end. -/
def finish (folder : Text) (start : Start) (ending : Ending) : Report :=
  match ending with
  | .timedOut output errors =>
    { start := some start, notices := [start.announcement], files := outputFiles (captured output) (captured errors)
      result := .error (.timedOut start.argv start.timeout) }
  | .exited code output errors =>
    match Text.ofFile output, Text.ofFile errors with
    | .error malformed, _ | .ok _, .error malformed =>
      { start := some start, notices := [start.announcement], result := .error (.undecodable malformed) }
    | .ok output, .ok errors =>
      { start := some start, notices := start.announcement :: exitNotices folder code
        files := outputFiles output errors, result := .ok ⟨code, output, errors⟩ }

/-- Starts a program, if the system can be given its name and all its arguments. -/
def launch (folder : Text) (start : Start) (ending : Ending) : Report :=
  match start.argv.mapM Text.systemBytes with
  | .error fault => { notices := [start.announcement], result := .error (.unusable fault) }
  | .ok _ => finish folder start ending

/-- The texts that arguments are, the first one being at a position. -/
def argumentTexts (position : Nat) : List Value → Except RunFault (List Text)
  | [] => .ok []
  | .string t :: arguments => (argumentTexts (position + 1) arguments).map (t :: ·)
  | argument :: _ => .error (.notText position argument)

/-- Runs the liquidator with options in a folder. An empty command stands for the one of the environment. -/
def run (folder : Text) (options : Options) (given : List Text) (timeout : Value) (environment : Environment)
    (ending : Ending) : Report :=
  match if given.isEmpty then command environment else .ok given with
  | .error fault => { result := .error (.badCommand fault) }
  | .ok words =>
    match options.argv with
    | .error fault => { result := .error (.unshowable fault) }
    | .ok arguments =>
      match argumentTexts words.length arguments with
      | .error fault => { result := .error fault }
      | .ok texts => launch folder ⟨words ++ texts, environment.over defaultEnvironment, timeout⟩ ending

end LiquidationDrill.Launch

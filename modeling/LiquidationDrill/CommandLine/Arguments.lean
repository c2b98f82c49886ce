import LiquidationDrill.CommandLine.Basic
import LiquidationDrill.Text.Word

/-!
# Reading arguments

- `CommandLine.scan`: tells flags with their values from operands, one argument at a time;
- `CommandLine.Command.settings`: what the arguments set, or the first thing that is wrong with them.

A flag is an argument that begins with a hyphen and is longer than it; its first value may be attached to it by `=`.
After `--` there are no flags.
-/

namespace LiquidationDrill.CommandLine

variable {S : Type}

/-- A flag as it was given, with what its values set. -/
structure Given (S : Type) where
  flag : Flag S
  setting : Except Refusal S

/-- The arguments of a command, told apart. -/
structure Scanned (S : Type) where
  asksHelp : Bool := false
  given : List (Given S) := []
  operands : List Text := []

/-- Puts a flag before the others. -/
def Scanned.give (given : Given S) (scanned : Scanned S) : Scanned S :=
  { scanned with given := given :: scanned.given }

/-- Puts an operand before the others. -/
def Scanned.operate (operand : Text) (scanned : Scanned S) : Scanned S :=
  { scanned with operands := operand :: scanned.operands }

/-- Asks for help. -/
def Scanned.askHelp (scanned : Scanned S) : Scanned S := { scanned with asksHelp := true }

/-- The argument names a flag. -/
def isFlag : Text → Bool
  | c :: _ :: _ => c = '-'
  | _ => false

/-- The name and the attached value of a flag. -/
def splitFlag (argument : Text) : Text × Option Text :=
  match argument.splitAtFirst? '=' with
  | some (name, value) => (name, some value)
  | none => (argument, none)

/-- No flag has this name. With two hyphens the similar names are told, and with one the first letter counts. -/
def noSuchFlag (flags : List (Flag S)) (argument : Text) : Misuse :=
  if argument.startsWith "--" then
    let name := (splitFlag argument).1
    .noSuchOption name (Text.closeMatches name (flags.map Flag.name ++ [helpFlag]))
  else .noSuchOption (argument.take 2) []

/-- Tells arguments apart. `waiting` is the flag whose values come next, with what is left of its reader; unless
flags are `mixed` with operands there are none after the first operand. -/
def scan (flags : List (Flag S)) (mixed : Bool) : (waiting : Option (Flag S × Reader S)) → List Text →
    Except Misuse (Scanned S)
  | none, [] => .ok {}
  | some (flag, _), [] => .error (.missingValues flag.name flag.reader.arity)
  | some (flag, .one read), value :: rest => (scan flags mixed none rest).map (·.give ⟨flag, read value⟩)
  | some (flag, .two read), value :: rest => scan flags mixed (some (flag, .one (read value))) rest
  | none, argument :: rest =>
    if argument = "--" then .ok { operands := rest }
    else if isFlag argument then
      let (name, attached) := splitFlag argument
      if name = helpFlag then
        match attached with
        | none => (scan flags mixed none rest).map Scanned.askHelp
        | some _ => .error (.unexpectedValue name)
      else
        match flags.find? (·.name = name), attached with
        | none, _ => .error (noSuchFlag flags argument)
        | some flag, none => scan flags mixed (some (flag, flag.reader)) rest
        | some flag, some value =>
          match flag.reader with
          | .one read => (scan flags mixed none rest).map (·.give ⟨flag, read value⟩)
          | .two read => scan flags mixed (some (flag, .one (read value))) rest
    else if mixed then (scan flags mixed none rest).map (·.operate argument)
    else .ok { operands := argument :: rest }

/-- Why a command does not run. -/
inductive Stop where
  /-- Help was asked for. -/
  | help
  | misuse (misuse : Misuse)
  | unusableName (fault : SystemFault)

/-- A setting, or what is wrong with the value of this name. -/
def named (name : Text) : Except Refusal S → Except Stop S
  | .ok setting => .ok setting
  | .error (.because reason) => .error (.misuse (.invalidValue name reason))
  | .error (.unusableName fault) => .error (.unusableName fault)

/-- What a flag sets: every time it is given, or only the last time. -/
def flagSettings (given : List (Given S)) (flag : Flag S) : Except Stop (List S) :=
  let times := given.filter (·.flag.name = flag.name)
  let counted := if flag.isRepeatable then times else times.getLast?.toList
  counted.mapM fun given => named flag.name given.setting

/-- What the operand sets. -/
def operandSettings (operand : Option (Operand S)) (operands : List Text) : Except Stop (List S) :=
  match operand, operands with
  | none, _ => .ok []
  | some operand, [] => .error (.misuse (.missingArgument operand.name))
  | some operand, value :: _ => (named operand.name (operand.read value)).map ([·])

/-- What scanned arguments set. The flags are looked at in the order in which they were first given, then the
operand, then the flags that are missing, then the operands that are too many. -/
def Command.settingsOf (command : Command S) (scanned : Scanned S) : Except Stop (List S) := do
  if scanned.asksHelp then throw .help
  let flags := (scanned.given.map Given.flag).eraseDupsBy fun a b => a.name = b.name
  let fromFlags ← flags.mapM (flagSettings scanned.given)
  let fromOperand ← operandSettings command.operand scanned.operands
  match command.flags.find? fun flag => flag.isRequired && !flags.any (·.name = flag.name) with
  | some flag => throw (.misuse (.missingOption flag.name))
  | none => pure ()
  match scanned.operands.drop command.operand.toList.length with
  | [] => return fromFlags.flatten ++ fromOperand
  | extra => throw (.misuse (.extraArguments extra))

/-- What arguments set. -/
def Command.settings (command : Command S) (arguments : List Text) : Except Stop (List S) :=
  match scan command.flags true none arguments with
  | .error misuse => .error (.misuse misuse)
  | .ok scanned => command.settingsOf scanned

/-! ## Groups -/

/-- A program that only chooses a command. -/
structure Group where
  path : Text
  about : Text
  commands : List Text

/-- The usage of a group. -/
def Group.usage (group : Group) : Usage := ⟨group.path, "[OPTIONS] COMMAND [ARGS]..."⟩

/-- A word that does not begin with a letter or digit is a misplaced flag, and shows the help. -/
def isMisplacedFlag : Text → Bool
  | [] => false
  | c :: _ => !c.isAlphanumeric

/-- The command that arguments choose, and the arguments left to it. Without arguments the help is shown. -/
def Group.choose (group : Group) (arguments : List Text) : Except Stop (Text × List Text) :=
  match arguments with
  | [] => .error .help
  | _ =>
    match scan ([] : List (Flag Unit)) false none arguments with
    | .error misuse => .error (.misuse misuse)
    | .ok scanned =>
      if scanned.asksHelp then .error .help
      else
        match scanned.operands with
        | [] => .error (.misuse .missingCommand)
        | name :: rest =>
          if name ∈ group.commands then .ok (name, rest)
          else if isMisplacedFlag name then .error .help
          else .error (.misuse (.noSuchCommand name))

end LiquidationDrill.CommandLine

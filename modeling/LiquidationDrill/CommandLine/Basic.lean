import LiquidationDrill.Text.Encoded
import LiquidationDrill.Text.Quoted
import LiquidationDrill.Text.Similarity

/-!
# Command lines

A command takes flags with one or two values each and at most one operand; each of them sets something.

- `CommandLine.Flag`, `CommandLine.Operand`, `CommandLine.Command`: what a command takes;
- `CommandLine.Misuse`: what can be wrong with the arguments, and its wording.
-/

namespace LiquidationDrill.CommandLine

/-- Why a value is refused. -/
inductive Refusal where
  /-- The user is told the reason. -/
  | because (reason : Text)
  /-- A file name that the system cannot be given cannot even be looked up. -/
  | unusableName (fault : SystemFault)

/-- Takes values and gives what they set. -/
inductive Reader (S : Type) where
  | one (read : Text → Except Refusal S)
  | two (read : Text → Text → Except Refusal S)

/-- The number of values a reader takes. -/
def Reader.arity {S : Type} : Reader S → Nat
  | one _ => 1
  | two _ => 2

/-- A flag of a command. -/
structure Flag (S : Type) where
  /-- The name, with two hyphens. -/
  name : Text
  reader : Reader S
  /-- Stands for the values in the help. -/
  metavar : Text := "TEXT"
  about : Text := []
  /-- The value that holds if the flag is not given, as the help shows it. -/
  shownDefault : Option Text := none
  isRequired : Bool := false
  /-- Every value counts, and not only the last one. -/
  isRepeatable : Bool := false

/-- What a command takes besides its flags. -/
structure Operand (S : Type) where
  name : Text
  read : Text → Except Refusal S

/-- A command that is told what to do by settings of type `S`. -/
structure Command (S : Type) where
  /-- How the command is called. -/
  path : Text
  flags : List (Flag S)
  operand : Option (Operand S) := none

/-- The flag that asks for help; every command has it. -/
def helpFlag : Text := "--help"

/-! ## Misuse -/

/-- What is wrong with the arguments of a command. -/
inductive Misuse where
  | noSuchOption (name : Text) (similar : List Text)
  | missingValues (flag : Text) (arity : Nat)
  | unexpectedValue (flag : Text)
  | missingOption (flag : Text)
  | missingArgument (operand : Text)
  /-- The value of a flag or operand is refused. -/
  | invalidValue (name reason : Text)
  | extraArguments (arguments : List Text)
  | missingCommand
  | noSuchCommand (name : Text)

/-- The wording of a misuse. -/
def Misuse.message : Misuse → Text
  | noSuchOption name [] => "No such option: " ++ name
  | noSuchOption name [similar] => "No such option: " ++ name ++ " Did you mean " ++ similar ++ "?"
  | noSuchOption name similar =>
    "No such option: " ++ name ++ " (Possible options: " ++ Text.join ", " (similar.mergeSort Text.notAfter) ++ ")"
  | missingValues flag 1 => "Option " ++ flag.quoted ++ " requires an argument."
  | missingValues flag arity => "Option " ++ flag.quoted ++ " requires " ++ Text.ofNat arity ++ " arguments."
  | unexpectedValue flag => "Option " ++ flag.quoted ++ " does not take a value."
  | missingOption flag => "Missing option '" ++ flag ++ "'."
  | missingArgument operand => "Missing argument '" ++ operand ++ "'."
  | invalidValue name reason => "Invalid value for '" ++ name ++ "': " ++ reason
  | extraArguments [argument] => "Got unexpected extra argument (" ++ argument ++ ")"
  | extraArguments arguments => "Got unexpected extra arguments (" ++ Text.join " " arguments ++ ")"
  | missingCommand => "Missing command."
  | noSuchCommand name => "No such command " ++ name.quoted ++ "."

/-- A misuse that concerns one flag alone is reported without the usage of the command. -/
def Misuse.showsUsage : Misuse → Bool
  | missingValues _ _ | unexpectedValue _ => false
  | _ => true

/-- How a command is used. -/
structure Usage where
  path : Text
  synopsis : Text

/-- The line that shows the usage. -/
def Usage.line (usage : Usage) : Text := "Usage: " ++ usage.path ++ " " ++ usage.synopsis ++ "\n"

/-- What the user is told about a misuse. -/
def Usage.report (usage : Usage) (misuse : Misuse) : Text :=
  (if misuse.showsUsage then
      (usage.line ++ "Try '" ++ usage.path ++ " " ++ helpFlag ++ "' for help.\n\n").plain
    else []) ++ ("Error: " ++ misuse.message ++ "\n").plain

/-- The usage of a command. -/
def Command.usage {S : Type} (command : Command S) : Usage where
  path := command.path
  synopsis :=
    match command.operand with
    | none => "[OPTIONS]"
    | some operand => "[OPTIONS] " ++ operand.name

end LiquidationDrill.CommandLine

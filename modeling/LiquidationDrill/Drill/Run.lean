import LiquidationDrill.Exit
import LiquidationDrill.Node.Session

/-!
# Running drills

A drill is a command whose settings make a script. `Drill.run` reads the arguments, runs the script on a node, and
tells how the command ends.
-/

namespace LiquidationDrill

open CommandLine

/-- A command that runs a script. -/
structure Drill (S : Type) where
  command : Command S
  /-- The script for settings, sent by an account. -/
  script : (account : Mainnet.Address) → List S → Script Unit

/-- The value of a setting that counts: the first one that is of interest, or a default. -/
def setting {S α : Type} (settings : List S) (pick : S → Option α) (default : α) : α :=
  (settings.findSome? pick).getD default

/-- A flag that takes any text. -/
def textFlag {S : Type} (name : Text) (make : Text → S) : Flag S :=
  { name, reader := .one fun value => .ok (make value) }

/-- A flag that takes one of several names. -/
def choiceFlag {S α : Type} (name : Text) (names : List Text) (ofName? : Text → Option α) (make : α → S) :
    Flag S where
  name := name
  metavar := "[" ++ Text.join "|" names ++ "]"
  reader := .one fun value =>
    match ofName? value with
    | some choice => .ok (make choice)
    | none =>
      .error (.because (value.quoted ++ " is not one of " ++ Text.join ", " (names.map Text.quoted) ++ "."))

/-- A flag that takes an integer. -/
def intFlag {S : Type} (name : Text) (make : Int → S) : Flag S where
  name := name
  metavar := "INTEGER"
  reader := .one fun value =>
    match value.toInt? with
    | some n => .ok (make n)
    | none => .error (.because (value.quoted ++ " is not a valid integer."))

/-- The end of a drill that was run. -/
def Exit.ofRun (session : Session) : Except Failure Unit → Exit
  | .ok () => { code := 0, output := session.output }
  | .error failure => .crashed session.output (.script failure)

/-- How a drill ends for arguments, and the session after it. -/
def Drill.run {S : Type} (drill : Drill S) (node : Node) (account : Mainnet.Address) (arguments : List Text) :
    Exit × Session :=
  match drill.command.settings arguments with
  | .error stop => (.notRun drill.command.usage drill.command.help stop, {})
  | .ok settings =>
    let (result, session) := (drill.script account settings).run node {}
    (.ofRun session result, session)

end LiquidationDrill

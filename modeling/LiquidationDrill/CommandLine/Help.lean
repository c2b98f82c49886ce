import LiquidationDrill.CommandLine.Arguments
import LiquidationDrill.Text.Fill

/-!
# Help

The help of a command shows its usage and, in two columns, its flags. Lines are filled to `helpWidth`.
-/

namespace LiquidationDrill.CommandLine

/-- The width of the help. -/
def helpWidth : Nat := 80

/-- Where the second column begins at the latest, less the gap before it. -/
def firstColumnLimit : Nat := 30

/-- The blanks between the columns, and before the first one. -/
def columnGap : Nat := 2

/-- A row of two columns; a first column that is too long takes a line of its own. -/
def row (width : Nat) (first second : Text) : Text :=
  let start := Text.spaces columnGap ++ first
  match second.fill (helpWidth - width - columnGap) with
  | [] => start ++ "\n"
  | line :: lines =>
    let gap :=
      if first.length + columnGap ≤ width then Text.spaces (width - first.length)
      else "\n" ++ Text.spaces (width + columnGap)
    let further (line : Text) : Text := Text.spaces (width + columnGap) ++ line ++ "\n"
    start ++ gap ++ line ++ "\n" ++ lines.flatMap further

/-- Rows under a heading. -/
def headed (heading : Text) (rows : List (Text × Text)) : Text :=
  let longest := rows.foldl (fun n (first, _) => max n first.length) 0
  let width := min longest firstColumnLimit + columnGap
  "\n" ++ heading ++ ":\n" ++ rows.flatMap fun (first, second) => row width first second

/-- What the help says about a flag: its purpose, its default, and whether it is required. -/
def Flag.description {S : Type} (flag : Flag S) : Text :=
  let default : List Text := flag.shownDefault.toList.map fun value => "default: " ++ value
  let required : List Text := if flag.isRequired then ["required"] else []
  let extra := default ++ required
  let notes : Text := if extra.isEmpty then [] else "[" ++ Text.join "; " extra ++ "]"
  if flag.about.isEmpty || notes.isEmpty then flag.about ++ notes else flag.about ++ "  " ++ notes

/-- The row of the flag that asks for help. -/
def helpRow : Text × Text := (helpFlag, "Show this message and exit.")

/-- The row of a flag. -/
def Flag.helpRow {S : Type} (flag : Flag S) : Text × Text := (flag.name ++ " " ++ flag.metavar, flag.description)

/-- The help of a command. -/
def Command.help {S : Type} (command : Command S) : Text :=
  command.usage.line ++ headed "Options" (command.flags.map Flag.helpRow ++ [helpRow])

/-- The help of a group. -/
def Group.help (group : Group) : Text :=
  group.usage.line ++ "\n" ++ Text.spaces columnGap ++ group.about ++ "\n" ++ headed "Options" [helpRow] ++
    headed "Commands" (group.commands.map fun name => (name, []))

end LiquidationDrill.CommandLine

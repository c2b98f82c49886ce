import LiquidationDrill.Check

/-!
# The program `cli`

Looks up what the arguments name, judges a log, and writes the judgements.
-/

namespace LiquidationDrill.Check

/-- What a name leads to, from the current folder. -/
def lookUp (name : String) : IO (Option Entry) := do
  let path := (← IO.currentDir) / name
  if name.isEmpty then return none
  else if ← path.isDir then return some .folder
  else if ← path.pathExists then return some (.file (← IO.FS.readBinFile path).toList)
  else return none

/-- Writes a text as UTF-8. -/
def write (stream : IO.FS.Stream) (text : Text) : IO Unit := stream.write ⟨text.utf8.toArray⟩

end LiquidationDrill.Check

open LiquidationDrill in
/-- Runs the program. -/
def main (arguments : List String) : IO UInt32 := do
  let entries ← arguments.mapM fun name => do return ((name : Text), ← Check.lookUp name)
  let exit := Check.run (fun name => (entries.lookup name).join) (arguments.map Text.ofString)
  Check.write (← IO.getStdout) exit.output
  Check.write (← IO.getStderr) exit.errors
  if let some crash := exit.uncaught then Check.write (← IO.getStderr) (crash.message ++ "\n")
  return exit.code.toUInt32

import TaskLink.Messaging.Network
import TaskLink.Tool.Run

/-!
# The program

Reads what the process was given, runs the tool and prints what it says.  The
sockets of a run live in a network of the program's own, which begins empty.
-/

namespace TaskLink

def consultedVariables : List String :=
  Configuration.variableOverrides.map (·.1) ++
    [configurationPathVariable, debugVariable, directivesVariable]

def readEnvironment : IO Environment := do
  let values ← consultedVariables.filterMapM fun name => do
    return (← IO.getEnv name).map fun value => (name, value.toUTF8)
  return ⟨values⟩

def readPath (path : String) : IO (Option (Except FileFault ByteArray)) := do
  try
    return some (.ok (← IO.FS.readBinFile path))
  catch
    | .noFileOrDirectory _ _ _ => return none
    | .inappropriateType _ _ _ => return some (.error .isDirectory)
    | error => return some (.error (.other (toString error)))

def programLimit : Nat := 1000000

end TaskLink

open TaskLink in
def main (arguments : List String) : IO UInt32 := do
  let environment ← readEnvironment
  let directory := (← IO.currentDir).toString
  let explicit :=
    match ToolRequest.ofArguments arguments with
    | .ok (.run flags _) => flags.configuration
    | _ => none
  let found ← (consultedPaths environment (some directory) explicit).mapM fun path =>
    return (path, ← readPath path)
  let around : ToolSurroundings := {
    files := fun path => (found.lookup path).join
    environment := environment
    workingDirectory := some directory }
  match runTool Network.fabric noWatchers programLimit arguments around {} with
  | none =>
      IO.eprintln "Failed: the command was not settled"
      return 1
  | some (outcome, _) =>
      IO.print outcome.output
      IO.eprint outcome.errors
      return outcome.exitCode.toUInt32

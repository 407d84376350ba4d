import Chargeback.Command.Conclusion
import Chargeback.Display.Moment
import Std.Time.DateTime.Timestamp

/-!
# The program

Gathers the surroundings of a command line, runs it to its end, and writes what it has to say: the
result to the output, the log and a failure beside it. A command line that is refused ends with
status two.
-/

open Chargeback Chargeback.Command

/-- The text of a file, if it can be read. -/
def readText? (path : String) : IO (Option String) := do
  try
    return some (← IO.FS.readFile path)
  catch _ =>
    return none

/-- The environment variables. -/
def environmentVariables : IO (List (String × String)) := do
  try
    let bytes ← IO.FS.readBinFile "/proc/self/environ"
    return (piecesOf 0 bytes.toList).filterMap fun entry =>
      (String.fromUTF8? ⟨entry.toArray⟩).bind (cut? '=')
  catch _ =>
    return []

/-- The surroundings of a command line, with the files that it may look for. -/
def gather (i : Invocation) (environment : List (String × String)) : IO Surroundings := do
  let home := (environment.lookup "HOME").filter (· != "")
  let config := i.config <|> home.map Settings.defaultPath
  let paths := (config.map (Settings.candidates Settings.Format.standard)).getD [] ++ i.documents
  let files ← paths.mapM fun path => return (path, ← readText? path)
  let now ← Std.Time.Timestamp.now
  let terminal ← (← IO.getStdout).isTty
  return {
    file := fun path => (files.lookup path).join
    environment
    home
    time := Display.moment now.toSecondsSinceUnixEpoch.toInt.toNat
    colors := colorsFor environment terminal }

/-- Runs the program. -/
def main (arguments : List String) : IO UInt32 := do
  let environment ← environmentVariables
  match Invocation.parse environment arguments with
  | .error misuse =>
    IO.eprintln s!"error: {misuse.message}"
    return 2
  | .ok invocation =>
    let conclusion := invocation.conclude (← gather invocation environment)
    for line in conclusion.log do
      IO.eprintln line
    IO.print conclusion.output
    for line in conclusion.remarks do
      IO.eprintln line
    return conclusion.status

import Chargeback.Command.Log
import Chargeback.Command.Run

/-!
# How a command ends

A command that succeeds writes its result to the output, all at once, and ends with status zero. One
that fails writes nothing to the output, says why beside it, and ends with status one. The log of
what was reported on the way stands beside the output in either case, and so do the metrics after a
result, if they are asked for.
-/

namespace Chargeback.Command

/-- What a command writes, and its exit status. -/
structure Conclusion where
  /-- The lines beside the output, before it. -/
  log : List String
  output : String := ""
  /-- The lines beside the output, after it. -/
  remarks : List String := []
  status : UInt32

/-- The lines that say why a command fails. -/
def failureLines (failure : Failure) : List String :=
  s!"Error: {failure.message}" ::
    (failure.fault?.map fun fault => s!"\nCaused by:\n    {fault.message}").toList

/-- Runs a command line to its end, with a library that reads the configuration. -/
def Invocation.conclude (i : Invocation) (s : Surroundings)
    (library : Settings.Library := .standard) : Conclusion :=
  let outcome := (i.run s library).run
  let log := logLines i.verbose i.logJson outcome.journal
  match outcome.value with
  | .ok text =>
    { log, output := text, status := 0,
      remarks := if i.metrics then metricLines (Metrics.recordAll {} outcome.journal) else [] }
  | .error failure => { log, remarks := failureLines failure, status := 1 }

end Chargeback.Command

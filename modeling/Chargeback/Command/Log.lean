import Chargeback.Journal.Metrics
import Chargeback.Json.Printer

/-!
# Logs

What is written beside the output: a line for each event of some importance, and on request the
metrics after the command.
-/

namespace Chargeback.Command

/-- Whether events of a level are logged. -/
def isLogged (verbose : Bool) : Level → Bool
  | .warn | .error => true
  | .info | .debug => verbose
  | .trace => false

def Detail.encode : Detail Float → Json
  | .text s => .string s
  | .count n => .number (toString n)
  | .amount x => .ofFloat x

/-- The line of an event, as text or as JSON. -/
def eventLine (json : Bool) (e : Event Float) : String :=
  let details := e.details.map fun d => (d.1, Detail.encode d.2)
  if json then
    (Json.object [("level", .string e.level.name),
      ("fields", .object (("message", .string e.message) :: details))]).compact
  else
    " ".intercalate (e.level.name :: e.message :: details.map fun d => d.1 ++ "=" ++ d.2.compact)

/-- The lines of a journal. -/
def logLines (verbose json : Bool) (journal : List (Effect Float)) : List String :=
  ((Effect.events journal).filter fun e => isLogged verbose e.level).map (eventLine json)

/-- The lines of the metrics, each with a name and a value. -/
def metricLines (m : Metrics Float) : List String :=
  [s!"costmodel_workloads_aggregated_total {m.aggregated}",
    s!"costmodel_workloads_shared_total {m.shared}",
    s!"costmodel_workloads_skipped_total {m.skipped}",
    s!"costmodel_clusters_without_billing_total {m.withoutBilling}",
    s!"costmodel_buckets_produced {m.buckets}"] ++
    m.coefficients.entries.map fun e =>
      "costmodel_idle_coefficient\x7bcluster=" ++ Json.quote e.1 ++ "\x7d " ++ Decimal.plain e.2

end Chargeback.Command

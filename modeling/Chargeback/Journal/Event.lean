import Chargeback.Pricing.Cadence
import Chargeback.Report.Efficiency
import Chargeback.Report.Field

/-!
# Events and effects

What a report or an idle estimation tells its surroundings while it runs: events for a log, and
changes of counters and gauges. An event is a cause with its data; `Event.level`, `Event.message`
and `Event.details` give its form in a log.
-/

namespace Chargeback

/-- The importance of an event. -/
inductive Level where
  | trace
  | debug
  | info
  | warn
  | error
  deriving DecidableEq, Repr

def Level.name : Level → String
  | .trace => "TRACE"
  | .debug => "DEBUG"
  | .info => "INFO"
  | .warn => "WARN"
  | .error => "ERROR"

/-- Why a bill could not be used. -/
inductive BillingGap where
  /-- Some item of the bill has no sample. -/
  | noSamples
  /-- The bill over the window is not a positive finite amount. -/
  | zeroCost
  deriving DecidableEq, Repr

def BillingGap.reason : BillingGap → String
  | .noSamples => "no billing samples"
  | .zeroCost => "billed cost is zero"

/-- Something worth a line in a log. -/
inductive Event (α : Type) where
  | reportStarted (field : GroupField) (workloads : Nat) (cadence : Cadence)
  | malformedPrice (price : String) (defect : Numeral.Defect)
  | invalidIdleCoefficient (field : GroupField) (cluster : String) (coefficient : α)
  | pooledWorkload (namespaceName pod : String)
  | efficiencyAnomaly (field : GroupField) (bucket : String) (scores : Efficiency α)
  | reportCompleted (field : GroupField) (buckets shared skipped : Nat) (sharedCost : α)
  | idleCoefficient (cluster : String) (observed billed coefficient : α)
  | missingBilling (cluster : String) (gap : BillingGap)
  | unobservedCluster (cluster : String) (billed : α)
  deriving Repr

/-- The value of a detail of an event. -/
inductive Detail (α : Type) where
  | text (s : String)
  | count (n : Nat)
  | amount (x : α)

namespace Event

variable {α : Type}

def level : Event α → Level
  | .pooledWorkload .. => .trace
  | .reportStarted .. | .malformedPrice .. => .debug
  | .reportCompleted .. | .idleCoefficient .. => .info
  | .invalidIdleCoefficient .. | .efficiencyAnomaly .. | .missingBilling ..
  | .unobservedCluster .. => .warn

def message : Event α → String
  | .reportStarted .. => "Aggregating cost data"
  | .malformedPrice .. => "Malformed price string, using zero"
  | .invalidIdleCoefficient .. => "Ignoring non-positive idle coefficient, using 1.0"
  | .pooledWorkload .. => "Pooled shared workload"
  | .efficiencyAnomaly .. => "Efficiency outside [0, 1], check requests against allocation"
  | .reportCompleted .. => "Cost report aggregated"
  | .idleCoefficient .. => "Computed idle coefficient"
  | .missingBilling .. =>
    "No usable billing data for cluster, is it emitting data? Using coefficient 1.0"
  | .unobservedCluster .. =>
    "Cluster is billed but no workload cost was observed, using coefficient 1.0"

/-- The details of an event, each under its name. -/
def details : Event α → List (String × Detail α)
  | .reportStarted field workloads cadence =>
    tagged "report_started" field.name
      [("field", .text field.name), ("workloads", .count workloads), ("rate", .text cadence.name)]
  | .malformedPrice price defect => [("price", .text price), ("error", .text defect.message)]
  | .invalidIdleCoefficient field cluster coefficient =>
    tagged "invalid_idle_coefficient" field.name
      [("cluster", .text cluster), ("coefficient", .amount coefficient)]
  | .pooledWorkload namespaceName pod => [("namespace", .text namespaceName), ("pod", .text pod)]
  | .efficiencyAnomaly field bucket scores =>
    tagged "efficiency_anomaly" field.name
      [("bucket", .text bucket), ("cpu_efficiency", .amount scores.cpu),
       ("ram_efficiency", .amount scores.ram), ("efficiency", .amount scores.overall)]
  | .reportCompleted field buckets shared skipped sharedCost =>
    tagged "report_completed" field.name
      [("buckets", .count buckets), ("shared_workloads", .count shared),
       ("skipped_workloads", .count skipped), ("shared_cost", .amount sharedCost)]
  | .idleCoefficient cluster observed billed coefficient =>
    tagged "idle_coefficient" "idle"
      [("cluster", .text cluster), ("observed_cost", .amount observed),
       ("cluster_cost", .amount billed), ("coefficient", .amount coefficient)]
  | .missingBilling cluster gap =>
    tagged "missing_billing_data" "idle" [("cluster", .text cluster), ("reason", .text gap.reason)]
  | .unobservedCluster cluster billed =>
    tagged "unobserved_cluster" "idle" [("cluster", .text cluster), ("cluster_cost", .amount billed)]
where
  /-- The details of an event that has a name and belongs to a kind of report. -/
  tagged (event report : String) (rest : List (String × Detail α)) : List (String × Detail α) :=
    ("event", .text event) :: ("report", .text report) :: rest

end Event

/-- The quantities that are only ever counted up. -/
inductive Counter where
  /-- Workloads merged into a bucket. -/
  | aggregated
  /-- Workloads whose cost was pooled. -/
  | shared
  /-- Workloads without the attribute a report groups by. -/
  | skipped
  /-- Clusters whose idle coefficient is one for lack of a usable bill or of observed cost. -/
  | withoutBilling
  /-- Reports, each of which is timed. -/
  | reports
  deriving DecidableEq, Repr

/-- One thing done to the surroundings. -/
inductive Effect (α : Type) where
  | event (e : Event α)
  /-- Counts one more. -/
  | count (c : Counter)
  /-- Sets the gauge of the number of buckets in the latest report. -/
  | buckets (n : Nat)
  /-- Sets the gauge of a cluster's latest idle coefficient. -/
  | coefficient (cluster : String) (value : α)
  /-- Asks the billing source for a window, shifted back by an offset. -/
  | billingQuery (window : String) (offset : Option String)
  deriving Repr

/-- The events among a list of effects, in order. -/
def Effect.events {α : Type} (effects : List (Effect α)) : List (Event α) :=
  effects.filterMap fun
    | .event e => some e
    | _ => none

/-- The arguments of the billing queries among a list of effects, in order. -/
def Effect.queries {α : Type} (effects : List (Effect α)) : List (String × Option String) :=
  effects.filterMap fun
    | .billingQuery window offset => some (window, offset)
    | _ => none

end Chargeback

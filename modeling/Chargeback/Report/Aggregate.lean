import Chargeback.Index
import Chargeback.Report.Record
import Chargeback.Report.Sharing

/-!
# Reports

A report takes an inventory and makes one record of each bucket. It goes through the workloads once,
in ascending order of their keys: a shared workload adds its cost to the pool, one without a bucket
is skipped, and any other is merged into its bucket. Then the pool is split evenly and every record
is finalized. What is reported on the way is in the journal.
-/

namespace Chargeback

/-- What a report is asked for. -/
structure ReportOptions (α : Type) where
  terms : Terms α
  /-- The number of periods that a cost series covers. -/
  periods : Option Nat := none
  idleCoefficients : Index α := ∅
  efficiency : Bool := false
  timeSeries : Bool := false
  sharing : Option SharingPolicy := none

/-- The records of all buckets, by key. -/
abbrev Report (α : Type) := Index (Record α)

variable {α : Type} [Number α]

namespace ReportOptions

/-- The idle coefficient of a cluster: the one supplied for it if it can be divided by, else one. -/
def idleCoefficient (o : ReportOptions α) (cluster : String) : α :=
  match o.idleCoefficients.get? cluster with
  | some c => if Number.isUsable c then c else 1
  | none => 1

/-- The supplied idle coefficient of a cluster, if it cannot be divided by. -/
def unusableCoefficient? (o : ReportOptions α) (cluster : String) : Option α :=
  (o.idleCoefficients.get? cluster).filter fun c => !Number.isUsable c

/-- Whether a workload is pooled. -/
def isPooled (o : ReportOptions α) (w : Workload α) : Bool :=
  o.sharing.any fun p => p.appliesTo w

end ReportOptions

namespace Record

/-- Works out the costs of a record, given the bucket's share of the pooled cost. -/
def costed (r : Record α) (share : α) (o : ReportOptions α) : Record α :=
  ((r.summed share).normalized o.terms.cadence o.periods).totalled

/-- Finalizes a record, given the bucket's share of the pooled cost. -/
def finalize (r : Record α) (share : α) (o : ReportOptions α) : Record α :=
  let r := r.costed share o
  let r := if o.efficiency then r.scored else r
  if o.timeSeries then r else r.withoutSeries

end Record

namespace Report

/-- What a report has gathered from the workloads so far. -/
structure Tally (α : Type) where
  buckets : Index (Record α) := ∅
  /-- The cost of the shared workloads. -/
  pool : α
  shared : Nat := 0
  skipped : Nat := 0

/-- Before the first workload. -/
def Tally.empty : Tally α := { pool := 0 }

/-- The bucket's share of the pool, the same for all. -/
def Tally.share (t : Tally α) : α :=
  if t.buckets.isEmpty then 0 else t.pool / Number.ofNat t.buckets.size

/-- Takes one workload into account. -/
def add (field : GroupField) (subfields : List String) (o : ReportOptions α) (t : Tally α)
    (w : Workload α) : Journaled (Effect α) (Tally α) := do
  if let some c := o.unusableCoefficient? w.cluster then
    .tell (.event (.invalidIdleCoefficient field w.cluster c))
  let priced ← w.price o.terms (o.idleCoefficient w.cluster)
  if o.isPooled w then
    .tellAll [.count .shared, .event (.pooledWorkload w.namespaceName w.pod)]
    return { t with pool := t.pool + priced.total, shared := t.shared + 1 }
  else
    match field.key? subfields w with
    | none =>
      .tell (.count .skipped)
      return { t with skipped := t.skipped + 1 }
    | some key =>
      .tell (.count .aggregated)
      let merged (r? : Option (Record α)) := (r?.getD (.empty field subfields key)).merge w priced
      return { t with buckets := t.buckets.upsert key merged }

/-- The workloads in ascending order of their keys. -/
def inKeyOrder (inventory : Inventory α) : List (Workload α) :=
  (sortBy (fun a b => decide (a.1 < b.1)) inventory.entries).map Prod.snd

/-- The warning about a bucket that is scored outside `[0, 1]`, given its share of the pooled cost. -/
def anomaly? (field : GroupField) (o : ReportOptions α) (share : α) (key : String)
    (r : Record α) : Option (Effect α) :=
  let scores := (r.costed share o).efficiency
  if o.efficiency && scores.isAnomalous then
    some (.event (.efficiencyAnomaly field key scores))
  else none

end Report

/-- Makes a report of an inventory. -/
def report (inventory : Inventory α) (field : GroupField) (subfields : List String)
    (o : ReportOptions α) : Journaled (Effect α) (Report α) := do
  .tell (.event (.reportStarted field inventory.size o.terms.cadence))
  let tally ← (Report.inKeyOrder inventory).foldlM (Report.add field subfields o) .empty
  let records := tally.buckets.mapWithName fun _ r => r.finalize tally.share o
  .tellAll (tally.buckets.entries.filterMap fun e => Report.anomaly? field o tally.share e.1 e.2)
  .tellAll [.count .reports, .buckets records.size,
    .event (.reportCompleted field records.size tally.shared tally.skipped tally.pool)]
  return records

end Chargeback

import Chargeback.Proofs.Report.Pass
import Chargeback.Proofs.Stepwise.Pricing
import Chargeback.Report.Aggregate

/-!
# Reports step by step

Making a report with its divisions in the open (`report_unfolds`). Beyond those of pricing, a cost
is divided by a number of periods other than none, idle resources by an allocation and idle
fractions by a cost that are positive, and the pool by the number of the buckets, of which there is
one at least.
-/

namespace Chargeback

/-- Other values under the names of an index, in their order. -/
def Index.withValues {β γ : Type} (m : Index β) (values : List γ) : Index γ where
  entries := m.names.zip values
  ascending := by
    refine List.pairwise_iff_getElem.mpr fun i j hi hj hij => ?_
    rw [List.getElem_zip, List.getElem_zip]
    exact List.pairwise_iff_getElem.mp m.pairwise_names i j _ _ hij

theorem Index.withValues_map {β γ : Type} (m : Index β) (f : String → β → γ) :
    m.withValues (m.entries.map fun e => f e.1 e.2) = m.mapWithName f := by
  simp only [Index.withValues, Index.mapWithName, Index.names, List.zip_map']

namespace Stepwise

variable {α : Type} [Number α]

/-! ## Merging -/

def mergeUtilization (new acc : Utilization α) : Stepwise α (Utilization α) := do
  return {
    allocation := ← merge new.allocation acc.allocation
    requested := ← merge new.requested acc.requested
    used := ← merge new.used acc.used }

def mergeUsage (new acc : Usage α) : Stepwise α (Usage α) := do
  return {
    cpu := ← mergeUtilization new.cpu acc.cpu
    ram := ← mergeUtilization new.ram acc.ram
    gpu := ← merge new.gpu acc.gpu }

def mergeCosts (acc : CostSeries α) (new : Priced α) : Stepwise α (CostSeries α) := do
  return {
    cpu := ← merge new.cpu acc.cpu
    ram := ← merge new.ram acc.ram
    gpu := ← merge new.gpu acc.gpu
    volume := ← new.volumes.foldlM (fun acc v => merge v acc) acc.volume
    network := ← merge new.network acc.network }

def mergeRecord (r : Record α) (w : Workload α) (priced : Priced α) : Stepwise α (Record α) := do
  return { r with
    usage := ← mergeUsage w.usage r.usage
    costSeries := ← mergeCosts r.costSeries priced
    attribution := r.attribution.add w.cluster }

/-! ## Finalizing -/

def idleFraction (u : Utilization α) : Stepwise α α := do
  let allocation ← average u.allocation
  if 0 < allocation then
    let requested ← average u.requested
    let used ← average u.used
    divide .idleFraction (requested - used) allocation
  else return 0

def overall (cpuIdle ramIdle cpuCost ramCost : α) : Stepwise α α :=
  if 0 < cpuCost + ramCost then do
    return 1 - (← divide .overall (cpuCost * cpuIdle + ramCost * ramIdle) (cpuCost + ramCost))
  else return 1

def ofIdle (cpuIdle ramIdle cpuCost ramCost : α) : Stepwise α (Efficiency α) := do
  let overall ← overall cpuIdle ramIdle cpuCost ramCost
  return { cpu := 1 - cpuIdle, ram := 1 - ramIdle, overall }

def efficiency (r : Record α) : Stepwise α (Efficiency α) := do
  ofIdle (← idleFraction r.usage.cpu) (← idleFraction r.usage.ram)
    r.costs.cpu r.costs.ram

def perPeriod (c : Costs α) (periods : Nat) : Stepwise α (Costs α) :=
  if periods = 0 then return c
  else do
    let n : α := Number.ofNat periods
    return { c with
      cpu := ← divide .period c.cpu n
      ram := ← divide .period c.ram n
      gpu := ← divide .period c.gpu n
      volume := ← divide .period c.volume n
      network := ← divide .period c.network n
      shared := ← divide .period c.shared n }

def normalized (r : Record α) (cadence : Cadence) (periods : Option Nat) : Stepwise α (Record α) :=
  if cadence.isCumulative then return r
  else do
    let n := (periods.filter (0 < ·)).getD r.costSeries.longest
    return { r with costs := ← perPeriod r.costs n }

def costed (r : Record α) (share : α) (o : ReportOptions α) : Stepwise α (Record α) := do
  return (← normalized (r.summed share) o.terms.cadence o.periods).totalled

def scored (r : Record α) : Stepwise α (Record α) := do
  return { r with scores := .ofEfficiency (← efficiency r) }

def scoredIf (asked : Bool) (r : Record α) : Stepwise α (Record α) :=
  if asked then scored r else return r

def finalize (r : Record α) (share : α) (o : ReportOptions α) : Stepwise α (Record α) := do
  let r ← scoredIf o.efficiency (← costed r share o)
  return if o.timeSeries then r else r.withoutSeries

/-! ## Reports -/

/-- Changes every value of an index, one after another, given its name. -/
def mapWithNameM {β γ : Type} (f : String → β → Stepwise α γ) (m : Index β) :
    Stepwise α (Index γ) := do
  return m.withValues (← m.entries.mapM fun e => f e.1 e.2)

def share (t : Report.Tally α) : Stepwise α α :=
  if t.buckets.isEmpty then return 0 else divide .share t.pool (Number.ofNat t.buckets.size)

def add (field : GroupField) (subfields : List String) (o : ReportOptions α) (t : Report.Tally α)
    (w : Workload α) : Stepwise α (Report.Tally α) := do
  if let some c := o.unusableCoefficient? w.cluster then
    undivided (.tell (.event (.invalidIdleCoefficient field w.cluster c)))
  let priced ← price w o.terms (o.idleCoefficient w.cluster)
  if o.isPooled w then
    undivided (.tellAll [.count .shared, .event (.pooledWorkload w.namespaceName w.pod)])
    return { t with pool := t.pool + priced.total, shared := t.shared + 1 }
  else
    match field.key? subfields w with
    | none =>
      undivided (.tell (.count .skipped))
      return { t with skipped := t.skipped + 1 }
    | some key =>
      undivided (.tell (.count .aggregated))
      let merged ←
        mergeRecord ((t.buckets.get? key).getD (.empty field subfields key)) w priced
      return { t with buckets := t.buckets.insert key merged }

def anomaly? (field : GroupField) (o : ReportOptions α) (share : α) (key : String)
    (r : Record α) : Stepwise α (Option (Effect α)) :=
  if o.efficiency then do
    let scores ← efficiency (← costed r share o)
    return if scores.isAnomalous then some (.event (.efficiencyAnomaly field key scores)) else none
  else return none

def report (inventory : Inventory α) (field : GroupField) (subfields : List String)
    (o : ReportOptions α) : Stepwise α (Report α) := do
  undivided (.tell (.event (.reportStarted field inventory.size o.terms.cadence)))
  let tally ← (Report.inKeyOrder inventory).foldlM (add field subfields o) .empty
  let share ← share tally
  let records ← mapWithNameM (fun _ r => finalize r share o) tally.buckets
  let anomalies ← tally.buckets.entries.mapM fun e => anomaly? field o share e.1 e.2
  undivided (.tellAll (anomalies.filterMap id))
  undivided (.tellAll [.count .reports, .buckets records.size,
    .event (.reportCompleted field records.size tally.shared tally.skipped tally.pool)])
  return records

/-! ## What they unfold -/

variable {d : α → α → α}

theorem Unfolds.mapWithNameM {β γ : Type} {f : String → β → Stepwise α γ} {g : String → β → γ}
    {m : Index β} (h : ∀ name b, (f name b).Unfolds d (Pure.pure (g name b))) :
    (mapWithNameM f m).Unfolds d (Pure.pure (m.mapWithName g)) := by
  rw [← Index.withValues_map]
  exact (Unfolds.mapM_pure fun e : String × β => h e.1 e.2).bind_pure (.pure _)

/-- Idle fractions are weighed by costs if these are positive together. -/
theorem ofIdle_unfolds (cpuIdle ramIdle cpuCost ramCost : α) :
    (ofIdle cpuIdle ramIdle cpuCost ramCost).Unfolds d
      (pure (@Efficiency.ofIdle α (.withDivision d) cpuIdle ramIdle cpuCost ramCost)) := by
  refine Unfolds.bind_pure (.ite_pure (fun hpos => ?_) fun _ => .pure 1) (.pure _)
  exact Unfolds.bind_pure (.divide ⟨hpos, by simp⟩) (.pure _)

variable [Number.Counted α]

theorem mergeUtilization_unfolds (new acc : Utilization α) :
    (mergeUtilization new acc).Unfolds d
      (pure (@Utilization.merge α (.withDivision d) new acc)) :=
  (merge_unfolds _ _).bind_pure ((merge_unfolds _ _).bind_pure
    ((merge_unfolds _ _).bind_pure (.pure _)))

theorem mergeUsage_unfolds (new acc : Usage α) :
    (mergeUsage new acc).Unfolds d (pure (@Usage.merge α (.withDivision d) new acc)) :=
  (mergeUtilization_unfolds _ _).bind_pure ((mergeUtilization_unfolds _ _).bind_pure
    ((merge_unfolds _ _).bind_pure (.pure _)))

theorem mergeCosts_unfolds (acc : CostSeries α) (new : Priced α) :
    (mergeCosts acc new).Unfolds d
      (pure (@CostSeries.merge α (.withDivision d) acc new)) := by
  refine (merge_unfolds _ _).bind_pure ((merge_unfolds _ _).bind_pure
    ((merge_unfolds _ _).bind_pure ?_))
  refine (Unfolds.foldlM_pure (fun acc v => merge_unfolds v acc) acc.volume).bind_pure ?_
  exact (merge_unfolds _ _).bind_pure (.pure _)

theorem mergeRecord_unfolds (r : Record α) (w : Workload α) (priced : Priced α) :
    (mergeRecord r w priced).Unfolds d
      (pure (@Record.merge α (.withDivision d) r w priced)) :=
  (mergeUsage_unfolds _ _).bind_pure ((mergeCosts_unfolds _ _).bind_pure (.pure _))

/-- An allocation is divided by if it is positive on average. -/
theorem idleFraction_unfolds (u : Utilization α) :
    (idleFraction u).Unfolds d
      (pure (@Utilization.idleFraction α (.withDivision d) u)) := by
  refine (average_unfolds u.allocation).bind_pure (.ite_pure (fun hpos => ?_) fun _ => .pure 0)
  refine (average_unfolds u.requested).bind_pure ((average_unfolds u.used).bind_pure ?_)
  exact .divide ⟨hpos, by simp⟩

theorem efficiency_unfolds (r : Record α) :
    (efficiency r).Unfolds d (pure (@Record.efficiency α (.withDivision d) r)) :=
  (idleFraction_unfolds _).bind_pure ((idleFraction_unfolds _).bind_pure (ofIdle_unfolds ..))

/-- Costs are divided by a number of periods if there is any. -/
theorem perPeriod_unfolds (c : Costs α) (periods : Nat) :
    (perPeriod c periods).Unfolds d
      (pure (@Costs.perPeriod α (.withDivision d) c periods)) := by
  refine .ite_pure (fun _ => .pure c) fun hperiods => ?_
  have hover (x : α) : (divide .period x (Number.ofNat periods)).Unfolds d
      (pure (d x (Number.ofNat periods))) :=
    .divide (isProper_ofNat (Nat.pos_of_ne_zero hperiods) (by decide))
  exact (hover _).bind_pure <| (hover _).bind_pure <| (hover _).bind_pure <|
    (hover _).bind_pure <| (hover _).bind_pure <| (hover _).bind_pure (.pure _)

theorem costed_unfolds (r : Record α) (share : α) (o : ReportOptions α) :
    (costed r share o).Unfolds d
      (pure (@Record.costed α (.withDivision d) r share o)) := by
  refine Unfolds.bind_pure (.ite_pure (fun _ => .pure _) fun _ => ?_) (.pure _)
  exact (perPeriod_unfolds _ _).bind_pure (.pure _)

theorem scored_unfolds (r : Record α) :
    (scored r).Unfolds d (pure (@Record.scored α (.withDivision d) r)) :=
  (efficiency_unfolds r).bind_pure (.pure _)

theorem scoredIf_unfolds (asked : Bool) (r : Record α) :
    (scoredIf asked r).Unfolds d
      (pure (if asked then @Record.scored α (.withDivision d) r else r)) :=
  .ite_pure (fun _ => scored_unfolds r) fun _ => .pure r

theorem finalize_unfolds (r : Record α) (share : α) (o : ReportOptions α) :
    (finalize r share o).Unfolds d
      (pure (@Record.finalize α (.withDivision d) r share o)) :=
  (costed_unfolds r share o).bind_pure ((scoredIf_unfolds _ _).bind_pure (.pure _))

/-- The pool is divided among the buckets if there is one. -/
theorem share_unfolds (t : Report.Tally α) :
    (share t).Unfolds d (pure (@Report.Tally.share α (.withDivision d) t)) := by
  refine .ite_pure (fun _ => .pure 0) fun hbuckets => ?_
  have hsize : 0 < t.buckets.size :=
    List.length_pos_iff.mpr fun h => hbuckets (List.isEmpty_iff.mpr h)
  exact .divide (isProper_ofNat hsize (by decide))

example (pool : α) : (share { pool }).quotients d = [] := rfl

/-- **One workload step by step.** Its idle coefficient can be divided by, whatever is supplied. -/
theorem add_unfolds (field : GroupField) (subfields : List String) (o : ReportOptions α)
    (t : Report.Tally α) (w : Workload α) :
    (add field subfields o t w).Unfolds d
      (@Report.add α (.withDivision d) field subfields o t w) := by
  have hidle : Number.isUsable (o.idleCoefficient w.cluster) = true :=
    o.isUsable_idleCoefficient Number.Counted.isUsable_one w.cluster
  unfold add Report.add
  have hunusable : @ReportOptions.unusableCoefficient? α (.withDivision d) o w.cluster =
    o.unusableCoefficient? w.cluster := rfl
  rw [hunusable]
  -- a warning comes first or not, and the rest is the same
  cases o.unusableCoefficient? w.cluster
  case' some => refine Unfolds.bind (.undivided _) fun _ => ?_
  all_goals
    refine (price_unfolds w o.terms hidle).bind fun priced => ?_
    refine Unfolds.ite (fun _ => ?_) fun _ => ?_
    · exact Unfolds.bind (.undivided _) fun _ => .pure _
    · cases field.key? subfields w with
      | none => exact Unfolds.bind (.undivided _) fun _ => .pure _
      | some key =>
        refine Unfolds.bind (.undivided _) fun _ => ?_
        dsimp only
        rw [Index.upsert_eq_insert]
        exact (mergeRecord_unfolds _ w priced).bind_pure (.pure _)

theorem anomaly?_unfolds (field : GroupField) (o : ReportOptions α) (share : α) (key : String)
    (r : Record α) :
    (anomaly? field o share key r).Unfolds d
      (pure (@Report.anomaly? α (.withDivision d) field o share key r)) := by
  unfold Report.anomaly? anomaly?
  cases heff : o.efficiency with
  | false => exact .pure none
  | true =>
    exact (costed_unfolds r share o).bind_pure ((efficiency_unfolds _).bind_pure (.pure _))

/-- **A report step by step.** -/
theorem report_unfolds (inventory : Inventory α) (field : GroupField) (subfields : List String)
    (o : ReportOptions α) :
    (report inventory field subfields o).Unfolds d
      (@Chargeback.report α (.withDivision d) inventory field subfields o) := by
  unfold report Chargeback.report
  refine Unfolds.bind (.undivided _) fun _ => ?_
  refine Unfolds.bind (.foldlM (add_unfolds field subfields o) _) fun tally => ?_
  refine (share_unfolds tally).bind_pure ?_
  refine (Unfolds.mapWithNameM fun _ r => finalize_unfolds r _ o).bind_pure ?_
  have hanomalies (share : α) :
      (tally.buckets.entries.mapM fun e => anomaly? field o share e.1 e.2).Unfolds d
        (pure (tally.buckets.entries.map fun e =>
          @Report.anomaly? α (.withDivision d) field o share e.1 e.2)) :=
    .mapM_pure fun e => anomaly?_unfolds field o share e.1 e.2
  refine (hanomalies _).bind_pure ?_
  rw [List.filterMap_map]
  exact Unfolds.bind (.undivided _) fun _ => Unfolds.bind (.undivided _) fun _ => .pure _

end Stepwise

end Chargeback

import Chargeback.Proofs.Pricing.Scaling
import Chargeback.Proofs.Report.Pass

/-!
# The cost that a record has taken in

In exact arithmetic, and away from time zero, merging a workload into a record adds the workload's
cost to that of the record: its resources to the first four cost series
(`CostSeries.resourceTotal_merge`), all of it to the five (`CostSeries.total_merge`). Finalizing
reads the costs off the series. A cumulative report leaves them as they are, and any other divides
them, with the share of the pooled cost, by the number of periods.
-/

namespace Chargeback

/-! ## Merging -/

namespace CostSeries

/-- The cost of cores, memory, GPUs and volumes. -/
def resourceTotal (c : CostSeries ℚ) : ℚ := c.cpu.total + c.ram.total + c.gpu.total + c.volume.total

/-- The whole cost, with that of the network. -/
def total (c : CostSeries ℚ) : ℚ := c.resourceTotal + c.network.total

/-- No cost has a time that is moved to zero. -/
structure OffOrigin (c : CostSeries ℚ) : Prop where
  cpu : c.cpu.OffOrigin
  ram : c.ram.OffOrigin
  gpu : c.gpu.OffOrigin
  volume : c.volume.OffOrigin
  network : c.network.OffOrigin

theorem offOrigin_empty : OffOrigin {} where
  cpu := Series.offOrigin_nil
  ram := Series.offOrigin_nil
  gpu := Series.offOrigin_nil
  volume := Series.offOrigin_nil
  network := Series.offOrigin_nil

theorem total_empty : total {} = 0 := by
  simp [total, resourceTotal, Number.neutral]

theorem resourceTotal_empty : resourceTotal {} = 0 := by
  simp [resourceTotal, Number.neutral]

end CostSeries

namespace Series

theorem offOrigin_foldl_merge {acc : Series ℚ} {vs : List (Series ℚ)} (hacc : acc.OffOrigin)
    (hvs : ∀ v ∈ vs, v.OffOrigin) : OffOrigin (vs.foldl (fun acc v => v.merge acc) acc) := by
  induction vs generalizing acc with
  | nil => exact hacc
  | cons v vs ih =>
    exact ih ((hvs v (by simp)).merge hacc) fun u hu => hvs u (by simp [hu])

/-- Volumes are merged one after another. -/
theorem total_foldl_merge {acc : Series ℚ} {vs : List (Series ℚ)} (hacc : acc.OffOrigin)
    (hvs : ∀ v ∈ vs, v.OffOrigin) :
    total (vs.foldl (fun acc v => v.merge acc) acc) = acc.total + (vs.map total).sum := by
  induction vs generalizing acc with
  | nil => simp
  | cons v vs ih =>
    have hv : v.OffOrigin := hvs v (by simp)
    rw [List.foldl_cons, ih (hv.merge hacc) fun u hu => hvs u (by simp [hu]), total_merge hv hacc,
      List.map_cons, List.sum_cons]
    ring

end Series

namespace CostSeries

variable {c : CostSeries ℚ} {p : Priced ℚ}

theorem OffOrigin.merge (hc : c.OffOrigin) (hp : p.OffOrigin) : (c.merge p).OffOrigin where
  cpu := hp.cpu.merge hc.cpu
  ram := hp.ram.merge hc.ram
  gpu := hp.gpu.merge hc.gpu
  volume := Series.offOrigin_foldl_merge hc.volume hp.volumes
  network := hp.network.merge hc.network

theorem resourceTotal_merge (hc : c.OffOrigin) (hp : p.OffOrigin) :
    (c.merge p).resourceTotal = c.resourceTotal + p.resourceTotal := by
  simp only [resourceTotal, CostSeries.merge, Priced.resourceTotal, Exact.sum_eq,
    Series.total_merge hp.cpu hc.cpu, Series.total_merge hp.ram hc.ram,
    Series.total_merge hp.gpu hc.gpu, Series.total_foldl_merge hc.volume hp.volumes]
  ring

/-- **Merging a workload adds its cost.** -/
theorem total_merge (hc : c.OffOrigin) (hp : p.OffOrigin) :
    (c.merge p).total = c.total + p.total := by
  have hnetwork : (c.merge p).network.total = p.network.total + c.network.total :=
    Series.total_merge hp.network hc.network
  rw [total, resourceTotal_merge hc hp, hnetwork, total, Priced.total]
  ring

end CostSeries

/-! ## Finalizing -/

namespace Record

variable {r : Record ℚ} {share : ℚ} {o : ReportOptions ℚ}

theorem costs_finalize_of_cumulative (h : o.terms.cadence = .cumulative) :
    (r.finalize share o).costs = (Costs.ofSeries r.costSeries share).withTotal := by
  rw [costs_finalize, h]
  rfl

theorem costs_finalize_of_periods {n : ℕ} (h : o.terms.cadence ≠ .cumulative)
    (hn : o.periods = some n) (hpos : 0 < n) :
    (r.finalize share o).costs =
      ((Costs.ofSeries r.costSeries share).perPeriod n).withTotal := by
  have hcadence : o.terms.cadence.isCumulative = false := by
    simpa [Cadence.isCumulative] using h
  rw [costs_finalize, normalized, hcadence, hn]
  simp only [Bool.false_eq_true, if_false, Option.filter_some, decide_eq_true hpos, if_true,
    Option.getD_some]
  rfl

end Record

namespace Costs

theorem total_ofSeries (c : CostSeries ℚ) (share : ℚ) :
    (ofSeries c share).withTotal.total = c.total + share := rfl

theorem total_perPeriod (c : CostSeries ℚ) (share : ℚ) {n : ℕ} (hn : 0 < n) :
    ((ofSeries c share).perPeriod n).withTotal.total = (c.total + share) / n := by
  rw [perPeriod, if_neg hn.ne']
  simp only [withTotal, ofSeries, CostSeries.total, CostSeries.resourceTotal, add_div]
  rfl

end Costs

end Chargeback

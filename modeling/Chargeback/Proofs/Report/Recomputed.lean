import Mathlib.Order.Bounds.Basic
import Chargeback.Proofs.Report.Resources

/-!
# Records that can be recomputed

A report over time keeps the cost series of its records, and with them all that the costs of a
record were worked out from. Each cost is the sum of its own series over a number of periods, which
is read off the same series unless it is given (`of_costs_finalize`, `isGreatest_longest`); the
share of the pooled cost is put over the same periods; and the total adds up the costs as they
stand in the record. In binary64 this is an equation of bits: sums run from left to right and start
at the negative zero, so that a series without samples costs that.
-/

namespace Chargeback

namespace CostSeries

variable {α : Type}

/-- The length of the longest series is the greatest of the five lengths. -/
theorem isGreatest_longest (c : CostSeries α) :
    IsGreatest (Set.range fun x => (c.of x).length) c.longest := by
  have hrange : (Set.range fun x => (c.of x).length) =
      {c.cpu.length, c.ram.length, c.volume.length, c.gpu.length, c.network.length} := by
    ext n
    constructor
    · rintro ⟨x, rfl⟩
      cases x <;> simp [of]
    · rintro (rfl | rfl | rfl | rfl | rfl)
      exacts [⟨.cpu, rfl⟩, ⟨.ram, rfl⟩, ⟨.volume, rfl⟩, ⟨.gpu, rfl⟩, ⟨.network, rfl⟩]
  rw [hrange]
  exact (((isGreatest_singleton.insert _).insert _).insert _).insert _

end CostSeries

namespace Report

variable {field : GroupField} {subfields : List String} {o : ReportOptions Float}

/-- **A record can be recomputed from itself.** In a report over time, each cost of a record is the
sum of its own series from left to right, beginning with the negative zero, and divided by the number
of periods if there is one and it is positive. A cumulative report has none. Any other has the number
that is given if it is positive, and else the length of the longest cost series of the record. The
share is that of the pooled cost for each bucket, over the same periods, and the total is the sum of
the six costs from left to right. -/
theorem report_recomputed {inventory : Inventory Float} {key : String} {r : Record Float}
    (htime : o.timeSeries = true)
    (h : (report inventory field subfields o).value.get? key = some r) :
    let share := pooledCost o (inKeyOrder inventory) /
      Float.ofNat (report inventory field subfields o).value.size
    let n? := o.periods? r.costSeries.longest
    (∀ x, r.costs.of x =
      overPeriods n? ((r.costSeries.of x).foldl (fun sum s => sum + s.value) (-0.0))) ∧
    r.costs.shared = overPeriods n? share ∧
    r.costs.total = r.costs.cpu + r.costs.ram + r.costs.gpu + r.costs.volume + r.costs.network +
      r.costs.shared ∧
    IsGreatest (Set.range fun x => (r.costSeries.of x).length) r.costSeries.longest := by
  intro share n?
  set bucket := gathered field subfields o key (inKeyOrder inventory)
  have hr : r = bucket.finalize share o := eq_of_get?_report h
  have hseries : r.costSeries = bucket.costSeries := by
    rw [hr, Record.costSeries_finalize, if_pos htime]
  have hn : n? = o.periods? bucket.costSeries.longest := by rw [← hseries]
  refine ⟨fun x => ?_, ?_, ?_, r.costSeries.isGreatest_longest⟩
  · have hsum : (r.costSeries.of x).total =
        (r.costSeries.of x).foldl (fun sum s => sum + s.value) (-0.0) := List.foldl_map
    rw [← hsum, hn, hseries, hr]
    exact Record.of_costs_finalize bucket share o x
  · rw [hn, hr]
    exact Record.shared_costs_finalize bucket share o
  · rw [hr]
    exact Record.total_costs_finalize bucket share o

/-- A workload with two samples, and one of the system. -/
def pairedInventory : Inventory Float where
  entries :=
    [("a", { namespaceName := "shop", node := { vcpuCost := "2" },
             usage := { cpu := { allocation := [⟨10, 1⟩, ⟨20, 3⟩] } } }),
      ("b", { namespaceName := systemNamespace, network := [⟨10, 5⟩] })]
  nodup := by decide

/-- Options for costs by the hour. Zero periods are as good as none given. -/
def pairedOptions : ReportOptions Float where
  terms := { cadence := .hourly, discount := 0 }
  periods := some 0
  timeSeries := true
  sharing := some { enabled := true, namespaces := [systemNamespace], selectors := ∅ }

theorem report_recomputed_paired :
    let records := (report pairedInventory .namespaceName [] pairedOptions).value
    pairedOptions.timeSeries = true ∧ ∃ r, records.get? "shop" = some r ∧
      pairedOptions.periods? r.costSeries.longest = some 2 ∧
      r.costs.cpu = r.costSeries.cpu.foldl (fun sum s => sum + s.value) (-0.0) / 2 ∧
      r.costs.ram = r.costSeries.ram.foldl (fun sum s => sum + s.value) (-0.0) / 2 ∧
      r.costSeries.ram = [] ∧
      r.costs.shared = pooledCost pairedOptions (inKeyOrder pairedInventory) / 1 / 2 ∧
      r.costs.total = r.costs.cpu + r.costs.ram + r.costs.gpu + r.costs.volume + r.costs.network +
        r.costs.shared := by
  intro records
  have hperiods : (records.get? "shop").map (fun r =>
      (pairedOptions.periods? r.costSeries.longest, r.costSeries.ram.isEmpty)) =
        some (some 2, true) := by decide +kernel
  have hsize : records.size = 1 := by decide +kernel
  obtain ⟨r, hr, hrecord⟩ := Option.map_eq_some_iff.mp hperiods
  obtain ⟨hn, hram⟩ := Prod.mk.inj hrecord
  obtain ⟨hcosts, hshared, htotal, -⟩ := report_recomputed (o := pairedOptions) rfl hr
  rw [hn, show (report pairedInventory .namespaceName [] pairedOptions).value.size = 1 from hsize]
    at hshared
  simp only [hn] at hcosts
  exact ⟨rfl, r, hr, hn, hcosts .cpu, hcosts .ram, List.isEmpty_iff.mp hram, hshared, htotal⟩

end Report

end Chargeback

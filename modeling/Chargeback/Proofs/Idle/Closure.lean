import Mathlib.Algebra.BigOperators.Ring.List
import Chargeback.Proofs.Idle.Run
import Chargeback.Proofs.Report.Grouping
import Chargeback.Proofs.Report.Spending

/-!
# The idle correction closes on the bill

An estimation and a report go through the same workloads on their own: the one adds up what a
cluster has cost without correction, the other merges corrected costs into the bucket of the
cluster. In exact arithmetic, and away from time zero, the bucket has gathered the cost of its
workloads (`resourceTotal_gathered`), which is what was observed divided by the idle coefficient
(`resourceTotal_bucket`). As the coefficient is what was observed over what was billed, the bucket
costs what was billed.
-/

namespace Chargeback

/-! ## What a bucket has gathered -/

namespace Report

variable {field : GroupField} {subfields : List String} {o : ReportOptions ℚ} {key : String}

theorem offOrigin_gathered {ws : List (Workload ℚ)} (hws : ∀ w ∈ ws, w.OffOrigin) :
    (gathered field subfields o key ws).costSeries.OffOrigin := by
  induction ws using List.reverseRecOn with
  | nil => exact CostSeries.offOrigin_empty
  | append_singleton ws w ih =>
    have ih := ih fun v hv => hws v (by simp [hv])
    cases hw : belongs field subfields o key w with
    | true =>
      rw [gathered_append_of_belongs hw]
      exact ih.merge ((hws w (by simp)).price _ _)
    | false =>
      rw [gathered_append_of_not_belongs hw]
      exact ih

/-- A bucket has gathered the resource cost of its workloads. -/
theorem resourceTotal_gathered {ws : List (Workload ℚ)} (hws : ∀ w ∈ ws, w.OffOrigin) :
    (gathered field subfields o key ws).costSeries.resourceTotal =
      ((ws.filter (belongs field subfields o key)).map fun w =>
        (o.priced w).resourceTotal).sum := by
  induction ws using List.reverseRecOn with
  | nil => exact CostSeries.resourceTotal_empty
  | append_singleton ws w ih =>
    have hws' : ∀ v ∈ ws, v.OffOrigin := fun v hv => hws v (by simp [hv])
    have ih := ih hws'
    cases hw : belongs field subfields o key w with
    | true =>
      rw [gathered_append_of_belongs hw]
      refine (CostSeries.resourceTotal_merge (offOrigin_gathered hws')
        ((hws w (by simp)).price _ _)).trans ?_
      rw [ih]
      simp [hw, ReportOptions.priced]
    | false =>
      rw [gathered_append_of_not_belongs hw, ih]
      simp [hw]

/-- With sharing off, a workload belongs to the bucket of its cluster. -/
theorem belongs_cluster (hsharing : ∀ p ∈ o.sharing, p.enabled = false) :
    belongs .cluster subfields o key = fun w => w.cluster == key := by
  funext w
  have hpool : o.isPooled w = false := by
    cases hs : o.sharing with
    | none => simp [ReportOptions.isPooled, hs]
    | some p => simp [ReportOptions.isPooled, SharingPolicy.appliesTo, hs, hsharing p hs]
  simp [belongs, hpool, GroupField.key?]

/-- **The bucket of a cluster** has gathered the observed cost, divided by the idle coefficient. -/
theorem resourceTotal_bucket {inventory : Inventory ℚ} (hoff : ∀ w ∈ inventory.values, w.OffOrigin)
    (hsharing : ∀ p ∈ o.sharing, p.enabled = false) :
    (gathered .cluster subfields o key (inKeyOrder inventory)).costSeries.resourceTotal =
      (observedCost inventory o.terms key).value / o.idleCoefficient key := by
  have hperm := inKeyOrder_perm inventory
  have hown : ∀ w ∈ inventory.values.filter fun w => w.cluster == key,
      (o.priced w).resourceTotal =
        (w.price o.terms 1).value.resourceTotal * (o.idleCoefficient key)⁻¹ := by
    intro w hw
    have hcluster : w.cluster = key := by simpa using (List.mem_filter.mp hw).2
    rw [ReportOptions.priced, resourceTotal_price, hcluster, div_eq_mul_inv]
  rw [resourceTotal_gathered fun w hw => hoff w (hperm.mem_iff.mp hw), belongs_cluster hsharing,
    ((hperm.filter _).map _).sum_eq, List.map_congr_left hown, List.sum_map_mul_right,
    value_observedCost, Exact.sum_eq, div_eq_mul_inv]

/-- A cumulative report by cluster gives each cluster the observed cost of its resources, divided by
the idle coefficient. -/
theorem get?_report_cluster {inventory : Inventory ℚ} (hoff : ∀ w ∈ inventory.values, w.OffOrigin)
    (hcumulative : o.terms.cadence = .cumulative) (hsharing : ∀ p ∈ o.sharing, p.enabled = false)
    (hkey : key ∈ Inventory.clusters inventory) :
    ∃ r, (report inventory .cluster subfields o).value.get? key = some r ∧
      r.costs.cpu + r.costs.ram + r.costs.gpu + r.costs.volume =
        (observedCost inventory o.terms key).value / o.idleCoefficient key := by
  have hperm := inKeyOrder_perm inventory
  obtain ⟨w, hw, rfl⟩ := List.mem_map.mp (mem_distinctAscending.mp hkey)
  have hbelongs : belongs .cluster subfields o w.cluster w = true := by
    rw [belongs_cluster hsharing]
    exact beq_self_eq_true _
  have hname : w.cluster ∈ (report inventory .cluster subfields o).value.names :=
    mem_names_report_iff.mpr ⟨w, hperm.mem_iff.mpr hw, belongs_iff.mp hbelongs⟩
  refine ⟨_, get?_report hname, ?_⟩
  rw [Record.costs_finalize_of_cumulative hcumulative]
  exact resourceTotal_bucket hoff hsharing

end Report

/-- A usable coefficient is the one that a report divides by. -/
theorem ReportOptions.idleCoefficient_of_usable {o : ReportOptions ℚ} {cluster : String} {c : ℚ}
    (h : o.idleCoefficients.get? cluster = some c) (hpos : 0 < c) :
    o.idleCoefficient cluster = c :=
  ReportOptions.idleCoefficient_eq h ((Exact.isUsable_iff c).mpr hpos)

theorem proRated_eq (bill : ℚ) (window : Window) :
    proRated bill window = bill / 730 * (window.milliseconds / 3600000) := rfl

/-- **The idle correction closes on the bill.** Let a report by cluster use the coefficients of an
estimation with the same discount and price list, and let sharing be off. Then the resources of each
cluster whose coefficient was computed cost what the cluster was billed over the window. -/
theorem report_closes_on_bill (inventory : Inventory ℚ) (source : BillingSource)
    (customPricing : Option CustomPricing) (discount : ℚ) (window : String)
    (offset : Option String) (subfields : List String) (o : ReportOptions ℚ)
    (hoff : ∀ w ∈ inventory.values, w.OffOrigin)
    (hterms : o.terms = { cadence := .cumulative, discount, customPricing })
    (hsharing : ∀ p ∈ o.sharing, p.enabled = false)
    (hfound : (idleCoefficients inventory source customPricing discount window offset).run.value =
      .ok o.idleCoefficients)
    {cluster : String} {coefficient : ℚ}
    (hcomputed : .coefficient cluster coefficient ∈
      (idleCoefficients inventory source customPricing discount window offset).run.journal) :
    ∃ length billing totals cpu memory storage r,
      Window.read window = .ok length ∧ source window offset = .ok billing ∧
      billing.get? cluster = some totals ∧ readTotal cluster .cpu totals.cpu = .ok cpu ∧
      readTotal cluster .memory totals.memory = .ok memory ∧
      readTotal cluster .storage totals.storage = .ok storage ∧
      (report inventory .cluster subfields o).value.get? cluster = some r ∧
      r.costs.cpu + r.costs.ram + r.costs.gpu + r.costs.volume =
        (cpu * (1 - discount) + memory * (1 - discount) + storage) / 730 *
          (length.milliseconds / 3600000) := by
  obtain ⟨length, billing, journal, hlength, hbilling, hjournal, hvisited⟩ :=
    visitedAll_of_idleCoefficients hfound
  have haccount : .coefficient cluster coefficient ∈ journal := by simpa [hjournal] using hcomputed
  rw [hvisited.journal] at haccount
  obtain ⟨c, hc, haccount⟩ := List.mem_flatMap.mp haccount
  obtain ⟨rfl, observed, billed, houtcome, -⟩ := estimated_of_mem_account haccount
  obtain ⟨totals, bill, htotals, hbill, rfl, rfl, hbilled, hobserved⟩ := eq_of_estimated houtcome
  obtain ⟨cpu, memory, storage, hcpu, hmemory, hstorage, rfl⟩ := monthlyBill_eq_ok hbill
  rw [Exact.isUsable_iff] at hbilled hobserved
  obtain ⟨found, hfoundOutcome, hget⟩ := hvisited.outcomes cluster hc
  obtain rfl := Except.ok.inj (hfoundOutcome.symm.trans houtcome)
  have hcoefficient := ReportOptions.idleCoefficient_of_usable hget (div_pos hobserved hbilled)
  obtain ⟨r, hr, hcosts⟩ := Report.get?_report_cluster hoff (by rw [hterms]) hsharing hc
  refine ⟨length, billing, totals, cpu, memory, storage, r, hlength, hbilling, htotals, hcpu,
    hmemory, hstorage, hr, ?_⟩
  rw [hcosts, hcoefficient, hterms, Outcome.coefficient, div_div_cancel₀ hobserved.ne',
    proRated_eq]

/-! ## A small bill -/

/-- A month of the cluster of the sample inventory. -/
def sampleBill : ClusterTotals where
  cpu := [⟨"1570000000", "600"⟩]
  memory := [⟨"1570000000", "60"⟩]
  storage := [⟨"1570000000", "73"⟩]

/-- Answers any query with the sample bill. -/
def sampleSource : BillingSource := fun _ _ => .ok (Assoc.ofList [("east", sampleBill)])

/-- The estimation of a day of the sample. -/
def sampleEstimation : EstimateM ℚ (Index ℚ) :=
  idleCoefficients Report.sampleInventory sampleSource none (1 / 10) "24h" none

/-- Options under which the sample is corrected by its own estimation. -/
def correctedOptions : ReportOptions ℚ where
  terms := { discount := 1 / 10 }
  idleCoefficients := sampleEstimation.run.value.toOption.getD ∅

/-- A day of the sample is billed 667 / 730 * 24, and that is what the report comes to. -/
theorem report_closes_on_bill_sample :
    ∃ r, (report Report.sampleInventory .cluster [] correctedOptions).value.get? "east" = some r ∧
      r.costs.cpu + r.costs.ram + r.costs.gpu + r.costs.volume = 8004 / 365 := by
  have hoff : ∀ w ∈ Report.sampleInventory.values, w.OffOrigin := by decide +kernel
  have hfound : sampleEstimation.run.value = .ok correctedOptions.idleCoefficients := by
    have hsome : sampleEstimation.run.value.toOption.isSome = true := by decide +kernel
    unfold correctedOptions
    cases h : sampleEstimation.run.value with
    | error e => simp [h, Except.toOption] at hsome
    | ok found => rfl
  have hany : (sampleEstimation.run.journal.any fun
      | .coefficient cluster _ => cluster == "east"
      | _ => false) = true := by decide +kernel
  obtain ⟨e, hmem, he⟩ := List.any_eq_true.mp hany
  obtain ⟨coefficient, rfl⟩ : ∃ v, e = .coefficient "east" v := by
    cases e <;> simp_all
  obtain ⟨length, billing, totals, cpu, memory, storage, r, hlength, hbilling, htotals, hcpu,
    hmemory, hstorage, hr, hcosts⟩ :=
    report_closes_on_bill Report.sampleInventory sampleSource none (1 / 10) "24h" none []
      correctedOptions hoff rfl (by simp [correctedOptions]) hfound hmem
  refine ⟨r, hr, hcosts.trans ?_⟩
  obtain rfl : sampleBill = totals := by
    obtain rfl := Except.ok.inj hbilling
    exact Option.some.inj htotals
  have hday : Window.read "24h" = .ok ⟨86400000⟩ := by decide +kernel
  have hcpu' : readTotal "east" .cpu sampleBill.cpu = .ok (600 : ℚ) := by decide +kernel
  have hmemory' : readTotal "east" .memory sampleBill.memory = .ok (60 : ℚ) := by decide +kernel
  have hstorage' : readTotal "east" .storage sampleBill.storage = .ok (73 : ℚ) := by decide +kernel
  obtain rfl := Except.ok.inj (hday.symm.trans hlength)
  obtain rfl := Except.ok.inj (hcpu'.symm.trans hcpu)
  obtain rfl := Except.ok.inj (hmemory'.symm.trans hmemory)
  obtain rfl := Except.ok.inj (hstorage'.symm.trans hstorage)
  norm_num

end Chargeback

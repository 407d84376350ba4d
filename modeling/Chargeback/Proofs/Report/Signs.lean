import Chargeback.Proofs.Idle.Closure
import Chargeback.Proofs.Idle.Locality
import Chargeback.Proofs.Number.Order
import Chargeback.Proofs.Report.Cadence
import Chargeback.Proofs.Series.Signs
import Chargeback.Settings.Basic

/-!
# Costs are not negative

In exact arithmetic a cost is negative only if an amount, a price or a network cost is. A tariff has
no negative factor: a discount that is accepted leaves a part of the price
(`discount_of_valid`), and what it divides by is positive, whatever idle coefficients are supplied
(`ReportOptions.isUsable_idleCoefficient`). So no series of a priced workload has a negative value
(`Workload.NonNeg.price`), and merging, pooling, splitting and dividing by a number of periods keep
it that way (`report_nonneg`). The coefficients of an estimation are quotients of positive costs, or
one (`pos_of_idleCoefficients`).
-/

namespace Chargeback

/-! ## Prices -/

/-- If the text is a price at all, it is not negative. -/
def NonNegPrice (price : String) : Prop :=
  ∀ n ∈ (Numeral.read price).toOption, 0 ≤ (Number.ofNumeral n : ℚ)

instance (price : String) : Decidable (NonNegPrice price) :=
  inferInstanceAs (Decidable (∀ n ∈ (Numeral.read price).toOption, 0 ≤ (Number.ofNumeral n : ℚ)))

/-- Every price of a node. -/
@[mk_iff]
structure Node.NonNegPrices (n : Node) : Prop where
  vcpu : NonNegPrice n.vcpuCost
  ram : NonNegPrice n.ramCost
  gpu : NonNegPrice n.gpuCost
  storage : NonNegPrice n.storageCost

/-- Every price of a price list. -/
@[mk_iff]
structure CustomPricing.NonNegPrices (p : CustomPricing) : Prop where
  cpu : NonNegPrice p.cpu
  ram : NonNegPrice p.ram
  gpu : NonNegPrice p.gpu
  spotCpu : NonNegPrice p.spotCpu
  spotRam : NonNegPrice p.spotRam
  spotGpu : NonNegPrice p.spotGpu
  storage : NonNegPrice p.storage

instance (n : Node) : Decidable n.NonNegPrices := decidable_of_iff' _ n.nonNegPrices_iff

instance (p : CustomPricing) : Decidable p.NonNegPrices := decidable_of_iff' _ p.nonNegPrices_iff

/-- The prices that a workload is priced by. -/
structure UnitPrices.NonNeg (p : UnitPrices ℚ) : Prop where
  cpu : 0 ≤ p.cpu
  ram : 0 ≤ p.ram
  gpu : 0 ≤ p.gpu
  storage : 0 ≤ p.storage

/-- A text that is no price counts as zero. -/
theorem NonNegPrice.value_readPrice {price : String} (h : NonNegPrice price) :
    0 ≤ (readPrice price : Journaled (Effect ℚ) ℚ).value := by
  unfold readPrice
  cases hread : Numeral.read price with
  | ok n => exact h n (by rw [hread]; rfl)
  | error defect => cases defect <;> exact le_refl 0

theorem UnitPrices.nonNeg_select {node : Node} {custom : Option CustomPricing}
    (hnode : node.NonNegPrices) (hcustom : ∀ p ∈ custom, p.NonNegPrices) :
    (select node custom : Journaled (Effect ℚ) (UnitPrices ℚ)).value.NonNeg := by
  unfold select
  split
  · next p hp =>
    have h : p.NonNegPrices := hcustom p (Option.filter_eq_some_iff.mp hp).1
    split
    · exact ⟨h.spotCpu.value_readPrice, h.spotRam.value_readPrice, h.spotGpu.value_readPrice,
        h.storage.value_readPrice⟩
    · exact ⟨h.cpu.value_readPrice, h.ram.value_readPrice, h.gpu.value_readPrice,
        h.storage.value_readPrice⟩
  · exact ⟨hnode.vcpu.value_readPrice, hnode.ram.value_readPrice, hnode.gpu.value_readPrice,
      hnode.storage.value_readPrice⟩

/-! ## One workload -/

/-- Nothing that a workload is priced by is negative. -/
@[mk_iff]
structure Workload.NonNeg (w : Workload ℚ) : Prop where
  node : w.node.NonNegPrices
  cpu : w.usage.cpu.allocation.NonNeg
  ram : w.usage.ram.allocation.NonNeg
  gpu : w.usage.gpu.NonNeg
  claims : ∀ c ∈ w.claims, c.requested.NonNeg
  volumes : ∀ c ∈ w.claims, ∀ v ∈ c.volume, NonNegPrice v.cost
  network : w.network.NonNeg

instance (w : Workload ℚ) : Decidable w.NonNeg := decidable_of_iff' _ w.nonNeg_iff

/-- The terms leave no price negative. -/
structure Terms.NonNeg (t : Terms ℚ) : Prop where
  discount : t.discount ≤ 1
  customPricing : ∀ p ∈ t.customPricing, p.NonNegPrices

/-- No part of the cost has a negative value. -/
def Priced.NonNeg (p : Priced ℚ) : Prop := ∀ x, ∀ s ∈ p.parts x, s.NonNeg

/-- **A discount that is accepted** leaves something of a price. -/
theorem discount_of_valid {discount : Float} (h : validateDiscount discount = .ok discount) :
    0 ≤ Binary64.value discount ∧ Binary64.value discount < 1 := by
  have hrange : 0 ≤ discount ∧ discount < 1 := by
    unfold validateDiscount at h
    split at h
    · assumption
    · cases h
  obtain ⟨-, hlower, hupper⟩ := Binary64.value_of_le_of_lt (by decide +kernel) (by decide +kernel)
    hrange.1 hrange.2
  have hzero : Binary64.value 0 = 0 := by decide +kernel
  have hone : Binary64.value 1 = 1 := by decide +kernel
  exact ⟨hzero ▸ hlower, hone ▸ hupper⟩

theorem Tariff.factor_nonneg {t : Tariff ℚ} (hprice : 0 ≤ t.unitPrice) (hscale : 0 < t.scale)
    (hremaining : 0 ≤ t.remaining) (hidle : 0 < t.idleCoefficient)
    (hmultiplier : 0 < t.multiplier) : 0 ≤ t.factor := by
  unfold factor
  positivity

theorem Series.NonNeg.price {s : Series ℚ} (h : s.NonNeg) {t : Tariff ℚ} (ht : 0 ≤ t.factor) :
    (t.price s).NonNeg := by
  intro x hx
  obtain ⟨y, hy, rfl⟩ := List.mem_map.mp hx
  change 0 ≤ t.cost y.value
  rw [t.cost_eq]
  exact mul_nonneg ht (h y hy)

/-- **No workload has a negative cost.** -/
theorem Workload.NonNeg.price {w : Workload ℚ} {terms : Terms ℚ} {idleCoefficient : ℚ}
    (h : w.NonNeg) (hterms : terms.NonNeg) (hidle : 0 < idleCoefficient) :
    (w.price terms idleCoefficient).value.NonNeg := by
  have hprices := UnitPrices.nonNeg_select h.node hterms.customPricing
  have hmultiplier := Cadence.multiplier_pos terms.cadence
  have hGiB : (0 : ℚ) < bytesPerGiB := by decide
  have hfactor {unitPrice scale : ℚ} (hprice : 0 ≤ unitPrice) (hscale : 0 < scale) :
      0 ≤ (terms.tariff idleCoefficient unitPrice scale).factor :=
    Tariff.factor_nonneg hprice hscale (sub_nonneg.mpr hterms.discount) hidle hmultiplier
  rw [Workload.value_price, Priced.NonNeg, Resource.forall_iff]
  simp only [Priced.parts, List.forall_mem_singleton]
  refine ⟨h.cpu.price (hfactor hprices.cpu one_pos), h.ram.price (hfactor hprices.ram hGiB),
    h.gpu.price (hfactor hprices.gpu one_pos), fun s hs => ?_, h.network⟩
  obtain ⟨c, hc, hs⟩ := List.mem_filterMap.mp hs
  obtain ⟨v, hv, rfl⟩ := Option.map_eq_some_iff.mp hs
  refine (h.claims c hc).price (Tariff.factor_nonneg ?_ hGiB zero_le_one hidle hmultiplier)
  change 0 ≤ (v.unitPrice terms _).value
  unfold Volume.unitPrice
  split
  · exact hprices.storage
  · exact (h.volumes c hc v hv).value_readPrice

/-! ## Records -/

/-- No cost is negative. -/
structure Costs.NonNeg (c : Costs ℚ) : Prop where
  cpu : 0 ≤ c.cpu
  ram : 0 ≤ c.ram
  gpu : 0 ≤ c.gpu
  volume : 0 ≤ c.volume
  network : 0 ≤ c.network
  shared : 0 ≤ c.shared
  total : 0 ≤ c.total

/-- No cost over time has a negative value. -/
def CostSeries.NonNeg (c : CostSeries ℚ) : Prop := ∀ x, (c.of x).NonNeg

/-- No cost of the record is negative, at any time or as a whole. -/
structure Record.NonNeg (r : Record ℚ) : Prop where
  costSeries : r.costSeries.NonNeg
  costs : r.costs.NonNeg

theorem Priced.NonNeg.total {p : Priced ℚ} (h : p.NonNeg) : 0 ≤ p.total := by
  have hpart (x : Resource) : 0 ≤ Series.total (p.parts x).flatten :=
    (Series.NonNeg.flatten (h x)).total
  have := hpart .cpu
  have := hpart .ram
  have := hpart .gpu
  have := hpart .volume
  have := hpart .network
  rw [Priced.total_eq]
  positivity

namespace Costs

theorem nonNeg_ofSeries {c : CostSeries ℚ} {share : ℚ} (hc : c.NonNeg) (hshare : 0 ≤ share) :
    (ofSeries c share).NonNeg :=
  ⟨(hc .cpu).total, (hc .ram).total, (hc .gpu).total, (hc .volume).total, (hc .network).total,
    hshare, le_refl 0⟩

theorem NonNeg.perPeriod {c : Costs ℚ} (h : c.NonNeg) (n : ℕ) : (c.perPeriod n).NonNeg := by
  have hn : (0 : ℚ) ≤ Number.ofNat n := Nat.cast_nonneg n
  unfold Costs.perPeriod
  split
  · exact h
  · exact ⟨div_nonneg h.cpu hn, div_nonneg h.ram hn, div_nonneg h.gpu hn, div_nonneg h.volume hn,
      div_nonneg h.network hn, div_nonneg h.shared hn, h.total⟩

theorem NonNeg.withTotal {c : Costs ℚ} (h : c.NonNeg) : c.withTotal.NonNeg := by
  obtain ⟨hcpu, hram, hgpu, hvolume, hnetwork, hshared, -⟩ := h
  refine ⟨hcpu, hram, hgpu, hvolume, hnetwork, hshared, ?_⟩
  unfold Costs.withTotal
  positivity

end Costs

/-- **Finalizing** a record makes no cost negative. -/
theorem Record.nonNeg_finalize {r : Record ℚ} {share : ℚ} (hr : r.costSeries.NonNeg)
    (hshare : 0 ≤ share) (o : ReportOptions ℚ) : (r.finalize share o).NonNeg where
  costSeries := by
    have hempty : CostSeries.NonNeg {} := fun x => by cases x <;> exact Series.nonNeg_nil
    unfold finalize costed normalized
    split <;> split <;> split <;> first | exact hr | exact hempty
  costs := by
    have hcosts := Costs.nonNeg_ofSeries hr hshare
    rw [costs_finalize_eq]
    split
    · exact hcosts.withTotal
    · exact (hcosts.perPeriod _).withTotal

/-! ## The report -/

namespace Report

variable {field : GroupField} {subfields : List String} {o : ReportOptions ℚ}

theorem nonNeg_gathered (key : String) {ws : List (Workload ℚ)}
    (h : ∀ w ∈ ws, (o.priced w).NonNeg) :
    (gathered field subfields o key ws).costSeries.NonNeg := by
  intro x
  rw [of_gathered]
  refine Series.NonNeg.accumulate fun s hs => ?_
  obtain ⟨w, hw, hs⟩ := List.mem_flatMap.mp hs
  exact h w (List.mem_of_mem_filter hw) x s hs

theorem pooledCost_nonneg {ws : List (Workload ℚ)} (h : ∀ w ∈ ws, (o.priced w).NonNeg) :
    0 ≤ pooledCost o ws := by
  induction ws using List.reverseRecOn with
  | nil => exact le_refl 0
  | append_singleton ws w ih =>
    have hw : 0 ≤ (o.priced w).total := (h w (by simp)).total
    have hws : 0 ≤ pooledCost o ws := ih fun v hv => h v (by simp [hv])
    cases hpool : o.isPooled w with
    | false => simpa [pooledCost, hpool] using hws
    | true => simpa [pooledCost, hpool] using add_nonneg hws hw

end Report

/-- A coefficient of an estimation is one, or the quotient of two costs that are positive. -/
theorem pos_of_idleCoefficients {inventory : Inventory ℚ} {source : BillingSource}
    {customPricing : Option CustomPricing} {discount : ℚ} {window : String}
    {offset : Option String} {found : Index ℚ}
    (hfound : (idleCoefficients inventory source customPricing discount window offset).run.value =
      .ok found) {cluster : String} {c : ℚ} (hc : found.get? cluster = some c) : 0 < c := by
  obtain ⟨length, billing, journal, -, -, -, hvisited⟩ := visitedAll_of_idleCoefficients hfound
  by_cases hmem : cluster ∈ Inventory.clusters inventory
  · obtain ⟨o, ho, hget⟩ := hvisited.outcomes cluster hmem
    obtain rfl := Option.some.inj (hget.symm.trans hc)
    cases o with
    | unbilled gap => exact one_pos
    | unobserved billed => exact one_pos
    | estimated observed billed =>
      obtain ⟨_, _, -, -, -, -, hbilled, hobserved⟩ := eq_of_estimated ho
      exact div_pos ((Exact.isUsable_iff _).mp hobserved) ((Exact.isUsable_iff _).mp hbilled)
  · rw [hvisited.others cluster hmem, Index.get?_empty] at hc
    cases hc

/-- **Costs are not negative.** In exact arithmetic, if nothing that workloads are priced by is
negative and the discount is one that is accepted, no cost of any bucket is negative, at any time
or as a whole, whatever idle coefficients are supplied and however the report groups, shares and
normalizes; and no coefficient that is estimated from the same workloads is negative, whatever they
are billed. -/
theorem report_nonneg (inventory : Inventory ℚ) (field : GroupField) (subfields : List String)
    (o : ReportOptions ℚ) {discount : Float} (hvalid : validateDiscount discount = .ok discount)
    (hdiscount : o.terms.discount = Binary64.value discount)
    (hcustom : ∀ p ∈ o.terms.customPricing, p.NonNegPrices)
    (hworkloads : ∀ w ∈ inventory.values, w.NonNeg) :
    (∀ key r, (report inventory field subfields o).value.get? key = some r → r.NonNeg) ∧
      ∀ source window offset found,
        (idleCoefficients inventory source o.terms.customPricing o.terms.discount window
          offset).run.value = .ok found →
        ∀ cluster c, found.get? cluster = some c → 0 ≤ c := by
  have hterms : o.terms.NonNeg := ⟨hdiscount ▸ (discount_of_valid hvalid).2.le, hcustom⟩
  have hpriced : ∀ w ∈ Report.inKeyOrder inventory, (o.priced w).NonNeg := by
    intro w hw
    have hidle := o.isUsable_idleCoefficient ((Exact.isUsable_iff 1).mpr one_pos) w.cluster
    exact (hworkloads w ((Report.inKeyOrder_perm inventory).mem_iff.mp hw)).price hterms
      ((Exact.isUsable_iff _).mp hidle)
  refine ⟨fun key r hr => ?_, fun source window offset found hfound cluster c hc =>
    (pos_of_idleCoefficients hfound hc).le⟩
  have hkey := Index.mem_names_iff.mpr ⟨r, hr⟩
  obtain rfl := Option.some.inj ((Report.get?_report hkey).symm.trans hr)
  refine Record.nonNeg_finalize (Report.nonNeg_gathered key hpriced) ?_ o
  exact div_nonneg (Report.pooledCost_nonneg hpriced) (Nat.cast_nonneg _)

/-- Options with a price that is no number and with coefficients that cannot be divided by. -/
def guardedOptions : ReportOptions ℚ where
  terms := { cadence := .daily, discount := 1 / 4,
             customPricing := some { enabled := true, cpu := "2", ram := "free", gpu := "0.5",
                                     storage := "4" } }
  idleCoefficients := Index.ofList [("east", -1 / 2), ("west", 0)]
  timeSeries := true
  sharing := some { enabled := true, namespaces := [systemNamespace], selectors := ∅ }

/-- The estimation of a day of the sample under these options. -/
def guardedEstimation : EstimateM ℚ (Index ℚ) :=
  idleCoefficients Report.sampleInventory sampleSource guardedOptions.terms.customPricing
    guardedOptions.terms.discount "24h" none

theorem report_nonneg_guarded :
    validateDiscount 0.25 = .ok 0.25 ∧
      guardedOptions.terms.discount = Binary64.value 0.25 ∧
      (∀ p ∈ guardedOptions.terms.customPricing, p.NonNegPrices) ∧
      (∀ w ∈ Report.sampleInventory.values, w.NonNeg) ∧
      (∃ r, (report Report.sampleInventory .service [] guardedOptions).value.get? "shop/web" =
        some r ∧ r.costs.total = 110 ∧ r.NonNeg) ∧
      ∃ found, guardedEstimation.run.value = .ok found ∧ found.get? "east" = some (365 / 768) ∧
        ∀ cluster c, found.get? cluster = some c → 0 ≤ c := by
  have hvalid : validateDiscount 0.25 = .ok 0.25 := if_pos (by decide +kernel)
  have hdiscount : guardedOptions.terms.discount = Binary64.value 0.25 := by decide +kernel
  have hcustom : ∀ p ∈ guardedOptions.terms.customPricing, p.NonNegPrices := by decide +kernel
  have hworkloads : ∀ w ∈ Report.sampleInventory.values, w.NonNeg := by decide +kernel
  obtain ⟨hrecords, hcoefficients⟩ := report_nonneg Report.sampleInventory .service []
    guardedOptions hvalid hdiscount hcustom hworkloads
  have htotal : ((report Report.sampleInventory .service [] guardedOptions).value.get?
      "shop/web").map (fun r => r.costs.total) = some 110 := by decide +kernel
  obtain ⟨r, hr, hcost⟩ := Option.map_eq_some_iff.mp htotal
  obtain ⟨found, hfound, -, hget⟩ := exists_eq_ok_of_entries
    (show guardedEstimation.run.value.toOption.map Index.entries =
      some [("east", 365 / 768), ("west", 1)] by decide +kernel)
  exact ⟨hvalid, hdiscount, hcustom, hworkloads, ⟨r, hr, hcost, hrecords _ r hr⟩, found, hfound,
    hget "east", hcoefficients _ _ _ found hfound⟩

end Chargeback

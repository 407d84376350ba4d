import Mathlib.Tactic.Ring
import Chargeback.Pricing.Priced
import Chargeback.Proofs.Series.Rescaling

/-!
# The cost of a workload

Every series of a priced workload is a usage series under one tariff (`value_price`,
`value_priceClaims`); only the network cost is passed through. In exact arithmetic a tariff
multiplies amounts by one factor, so a series under a tariff is the series on the grid, multiplied
by this factor (`Tariff.price_eq`), and the idle coefficient of the cluster divides the cost of
cores, memory, GPUs and volumes as a whole (`resourceTotal_price`). Pricing moves times to the grid
and keeps series away from time zero (`Workload.OffOrigin.price`).
-/

namespace Chargeback

section Parts

variable {α : Type} [Number α]

/-- How cores, memory and GPUs are priced. -/
def Terms.tariff (terms : Terms α) (idleCoefficient unitPrice scale : α) : Tariff α :=
  { unitPrice, scale, remaining := 1 - terms.discount, idleCoefficient,
    multiplier := terms.cadence.multiplier }

/-- How the storage on a volume is priced. -/
def Terms.volumeTariff (terms : Terms α) (prices : UnitPrices α) (idleCoefficient : α)
    (v : Volume) : Tariff α :=
  { unitPrice := (v.unitPrice terms prices).value, scale := bytesPerGiB, remaining := 1,
    idleCoefficient, multiplier := terms.cadence.multiplier }

/-- The price series of the bound volumes among the claims. -/
def Terms.volumeCosts (terms : Terms α) (prices : UnitPrices α) (idleCoefficient : α)
    (claims : List (Claim α)) : List (Series α) :=
  claims.filterMap fun c =>
    c.volume.map fun v => (terms.volumeTariff prices idleCoefficient v).price c.requested

theorem value_priceClaims (terms : Terms α) (prices : UnitPrices α) (idleCoefficient : α)
    (claims : List (Claim α)) :
    (priceClaims terms prices idleCoefficient claims).value =
      terms.volumeCosts prices idleCoefficient claims := by
  unfold Terms.volumeCosts
  induction claims with
  | nil => rfl
  | cons c claims ih =>
    unfold priceClaims
    cases hv : c.volume with
    | none => rw [List.filterMap_cons_none (by rw [hv]; rfl), ← ih]
    | some v =>
      rw [List.filterMap_cons_some (by rw [hv]; rfl), ← ih]
      rfl

/-- **The parts of a priced workload.** -/
theorem Workload.value_price (w : Workload α) (terms : Terms α) (idleCoefficient : α) :
    let prices := (UnitPrices.select w.node terms.customPricing).value
    (w.price terms idleCoefficient).value =
      { cpu := (terms.tariff idleCoefficient prices.cpu 1).price w.usage.cpu.allocation
        ram := (terms.tariff idleCoefficient prices.ram bytesPerGiB).price w.usage.ram.allocation
        gpu := (terms.tariff idleCoefficient prices.gpu 1).price w.usage.gpu
        volumes := terms.volumeCosts prices idleCoefficient w.claims
        network := w.network } := by
  intro prices
  rw [← value_priceClaims]
  rfl

end Parts

/-! ## The factor of a tariff -/

namespace Tariff

/-- The cost of an amount of one. -/
def factor (t : Tariff ℚ) : ℚ :=
  t.unitPrice * t.remaining / t.idleCoefficient * t.multiplier / t.scale

theorem cost_eq (t : Tariff ℚ) (amount : ℚ) : t.cost amount = t.factor * amount := by
  rw [cost, factor]
  ring

/-- **A series under a tariff** is the series on the grid, multiplied by the tariff's factor. -/
theorem price_eq (t : Tariff ℚ) (s : Series ℚ) : t.price s = s.regrid.scale t.factor := by
  simp only [price, Series.regrid, Series.scale, List.map_map]
  refine List.map_congr_left fun x _ => ?_
  change (⟨gridTime x.time, t.cost x.value⟩ : Sample ℚ) =
    Sample.scale t.factor (if x.time == 0 then x else x.onGrid)
  rw [t.cost_eq, ← Series.time_regrid_sample x]
  split <;> rfl

theorem times_price (t : Tariff ℚ) (s : Series ℚ) : (t.price s).times = s.regrid.times := by
  rw [price_eq, Series.times_scale]

/-- The multiplier of a tariff multiplies all costs. -/
theorem price_multiplier (t : Tariff ℚ) (s : Series ℚ) :
    t.price s = (price { t with multiplier := 1 } s).scale t.multiplier := by
  rw [price_eq, price_eq, Series.scale_scale, factor, factor]
  congr 1
  ring

/-! ## The idle coefficient divides -/

/-- The tariff without idle correction. -/
def uncorrected (t : Tariff ℚ) : Tariff ℚ := { t with idleCoefficient := 1 }

theorem factor_eq_uncorrected (t : Tariff ℚ) :
    t.factor = t.uncorrected.factor / t.idleCoefficient := by
  rw [factor, factor, uncorrected]
  ring

theorem total_price (t : Tariff ℚ) (s : Series ℚ) :
    (t.price s).total = (t.uncorrected.price s).total / t.idleCoefficient := by
  rw [price_eq, price_eq, Series.total_scale, Series.total_scale, factor_eq_uncorrected,
    div_mul_eq_mul_div]

end Tariff

theorem total_tariff_price (terms : Terms ℚ) (idleCoefficient unitPrice scale : ℚ) (s : Series ℚ) :
    ((terms.tariff idleCoefficient unitPrice scale).price s).total =
      ((terms.tariff 1 unitPrice scale).price s).total / idleCoefficient :=
  Tariff.total_price _ s

theorem sum_total_volumeCosts (terms : Terms ℚ) (prices : UnitPrices ℚ) (idleCoefficient : ℚ)
    (claims : List (Claim ℚ)) :
    ((terms.volumeCosts prices idleCoefficient claims).map Series.total).sum =
      ((terms.volumeCosts prices 1 claims).map Series.total).sum / idleCoefficient := by
  unfold Terms.volumeCosts
  induction claims with
  | nil => simp
  | cons c claims ih =>
    cases hv : c.volume with
    | none =>
      rw [List.filterMap_cons_none (by rw [hv]; rfl), List.filterMap_cons_none (by rw [hv]; rfl),
        ih]
    | some v =>
      rw [List.filterMap_cons_some (by rw [hv]; rfl), List.filterMap_cons_some (by rw [hv]; rfl),
        List.map_cons, List.map_cons, List.sum_cons, List.sum_cons, ih, Tariff.total_price, add_div]
      rfl

/-- **The idle coefficient divides the cost of all resources.** -/
theorem resourceTotal_price (w : Workload ℚ) (terms : Terms ℚ) (idleCoefficient : ℚ) :
    (w.price terms idleCoefficient).value.resourceTotal =
      (w.price terms 1).value.resourceTotal / idleCoefficient := by
  simp only [Workload.value_price, Priced.resourceTotal, Exact.sum_eq]
  rw [sum_total_volumeCosts]
  simp only [total_tariff_price terms idleCoefficient, add_div]

/-! ## Costs away from time zero -/

/-- No sample that a cost is computed from has a time that is moved to zero. -/
@[mk_iff]
structure Workload.OffOrigin (w : Workload ℚ) : Prop where
  cpu : w.usage.cpu.allocation.OffOrigin
  ram : w.usage.ram.allocation.OffOrigin
  gpu : w.usage.gpu.OffOrigin
  claims : ∀ c ∈ w.claims, c.requested.OffOrigin
  network : w.network.OffOrigin

/-- No cost has a time that is moved to zero. -/
structure Priced.OffOrigin (p : Priced ℚ) : Prop where
  cpu : p.cpu.OffOrigin
  ram : p.ram.OffOrigin
  gpu : p.gpu.OffOrigin
  volumes : ∀ v ∈ p.volumes, v.OffOrigin
  network : p.network.OffOrigin

instance (s : Series ℚ) : Decidable s.OffOrigin :=
  inferInstanceAs (Decidable (∀ x ∈ s, gridTime x.time ≠ 0))

instance (w : Workload ℚ) : Decidable w.OffOrigin :=
  decidable_of_iff' _ w.offOrigin_iff

theorem Series.OffOrigin.price {s : Series ℚ} (h : s.OffOrigin) (t : Tariff ℚ) :
    (t.price s).OffOrigin := by
  intro x hx
  obtain ⟨y, hy, rfl⟩ := List.mem_map.mp hx
  change gridTime (gridTime y.time) ≠ 0
  rw [gridTime_gridTime]
  exact h y hy

theorem Workload.OffOrigin.price {w : Workload ℚ} (h : w.OffOrigin) (terms : Terms ℚ)
    (idleCoefficient : ℚ) : (w.price terms idleCoefficient).value.OffOrigin := by
  rw [Workload.value_price]
  refine ⟨h.cpu.price _, h.ram.price _, h.gpu.price _, fun v hv => ?_, h.network⟩
  obtain ⟨c, hc, hcv⟩ := List.mem_filterMap.mp hv
  obtain ⟨_, -, rfl⟩ := Option.map_eq_some_iff.mp hcv
  exact (h.claims c hc).price _

end Chargeback

import Chargeback.Proofs.Pricing.Scaling
import Chargeback.Proofs.Report.Resources

/-!
# What is given and what it costs

A record accumulates the cost of a resource and the amount that is given of it side by side. The
cost of a workload is moved to the grid before it is merged and the amount is not; undated samples
are dropped from both, or from neither. In exact arithmetic the two accumulations keep the same
times (`Record.Aligned`), and if all workloads are priced alike, the cost is at every time the
amount times one factor (`Record.Proportional`). Each is kept by every workload that is merged, as
long as no time but zero is moved to zero.
-/

namespace Chargeback

/-- A resource that workloads are given an amount of. -/
inductive Allotment where
  | cpu
  | ram
  | gpu
  deriving DecidableEq, Repr

namespace Allotment

/-- The resource that is paid for. -/
def resource : Allotment → Resource
  | .cpu => .cpu
  | .ram => .ram
  | .gpu => .gpu

/-- The amount that a price is given for. -/
def unit : Allotment → ℚ
  | .cpu | .gpu => 1
  | .ram => bytesPerGiB

end Allotment

section Parts

variable {α : Type}

/-- The amounts given of a resource. -/
def Usage.allotted (u : Usage α) : Allotment → Series α
  | .cpu => u.cpu.allocation
  | .ram => u.ram.allocation
  | .gpu => u.gpu

/-- The price of a unit of a resource. -/
def UnitPrices.of (p : UnitPrices α) : Allotment → α
  | .cpu => p.cpu
  | .ram => p.ram
  | .gpu => p.gpu

/-- A workload with what it is priced by. -/
structure Billed (α : Type) where
  workload : Workload α
  terms : Terms α
  idleCoefficient : α

variable [Number α]

theorem Usage.allotted_merge (new acc : Usage α) (x : Allotment) :
    (new.merge acc).allotted x = (new.allotted x).merge (acc.allotted x) := by
  cases x <;> rfl

/-- The unit price that a workload resolves to. -/
def Billed.unitPrice (b : Billed α) (x : Allotment) : α :=
  (UnitPrices.select b.workload.node b.terms.customPricing).value.of x

/-- Prices a workload and merges it. -/
def Record.take (r : Record α) (b : Billed α) : Record α :=
  r.merge b.workload (b.workload.price b.terms b.idleCoefficient).value

end Parts

/-- How the amounts that a workload is given of a resource are priced. -/
def Billed.tariff (b : Billed ℚ) (x : Allotment) : Tariff ℚ :=
  b.terms.tariff b.idleCoefficient (b.unitPrice x) x.unit

namespace Record

/-! ## One workload -/

/-- The cost and the amount given of a resource are at the same times. -/
def Aligned (x : Allotment) (r : Record ℚ) : Prop :=
  (r.costSeries.of x.resource).times = (r.usage.allotted x).times

/-- The cost of a resource is the amount given of it, times a factor. -/
def Proportional (x : Allotment) (k : ℚ) (r : Record ℚ) : Prop :=
  r.costSeries.of x.resource = (r.usage.allotted x).scale k

theorem allotted_take (r : Record ℚ) (b : Billed ℚ) (x : Allotment) :
    (r.take b).usage.allotted x = (b.workload.usage.allotted x).merge (r.usage.allotted x) :=
  Usage.allotted_merge _ _ x

theorem cost_take (r : Record ℚ) (b : Billed ℚ) (x : Allotment) :
    (r.take b).costSeries.of x.resource =
      ((b.tariff x).price (b.workload.usage.allotted x)).merge (r.costSeries.of x.resource) := by
  unfold take merge
  rw [Workload.value_price, CostSeries.of_merge]
  cases x <;> rfl

/-- **Merging a workload keeps costs and amounts aligned.** -/
theorem Aligned.take {r : Record ℚ} {x : Allotment} (h : r.Aligned x) {b : Billed ℚ}
    (hb : (b.workload.usage.allotted x).UndatedAtOrigin) : (r.take b).Aligned x := by
  unfold Aligned
  rw [allotted_take, cost_take, ← Series.merge_regrid_left hb]
  exact Series.times_merge_congr (Tariff.times_price _ _) h

/-- **Merging a workload keeps costs proportional to amounts**, if its tariff has the same
factor. -/
theorem Proportional.take {r : Record ℚ} {x : Allotment} {b : Billed ℚ}
    (h : r.Proportional x (b.tariff x).factor)
    (hb : (b.workload.usage.allotted x).UndatedAtOrigin) :
    (r.take b).Proportional x (b.tariff x).factor := by
  unfold Proportional at h ⊢
  rw [allotted_take, cost_take, ← Series.merge_regrid_left hb, Tariff.price_eq, h,
    Series.merge_scale]

/-! ## All workloads -/

variable (field : GroupField) (subfields : List String) (key : String)

/-- The record of a bucket after workloads have been priced and merged, one after another. -/
def merged (bs : List (Billed ℚ)) : Record ℚ :=
  bs.foldl take (.empty field subfields key)

theorem merged_append_singleton (bs : List (Billed ℚ)) (b : Billed ℚ) :
    merged field subfields key (bs ++ [b]) = (merged field subfields key bs).take b := by
  simp [merged]

variable {bs : List (Billed ℚ)} {x : Allotment}

theorem aligned_merged (h : ∀ b ∈ bs, (b.workload.usage.allotted x).UndatedAtOrigin) :
    (merged field subfields key bs).Aligned x := by
  induction bs using List.reverseRecOn with
  | nil => cases x <;> rfl
  | append_singleton bs b ih =>
    rw [merged_append_singleton]
    exact (ih fun c hc => h c (by simp [hc])).take (h b (by simp))

theorem proportional_merged {k : ℚ}
    (h : ∀ b ∈ bs, (b.workload.usage.allotted x).UndatedAtOrigin)
    (hfactor : ∀ b ∈ bs, (b.tariff x).factor = k) :
    (merged field subfields key bs).Proportional x k := by
  induction bs using List.reverseRecOn with
  | nil => cases x <;> rfl
  | append_singleton bs b ih =>
    have hbs : (merged field subfields key bs).Proportional x k :=
      ih (fun c hc => h c (by simp [hc])) fun c hc => hfactor c (by simp [hc])
    have hb : (b.tariff x).factor = k := hfactor b (by simp)
    subst hb
    rw [merged_append_singleton]
    exact hbs.take (h b (by simp))

/-- **Costs stay aligned with what they are paid for.** In exact arithmetic, whatever workloads are
merged, the cost of a resource and the amount given of it end up at the same times, in the same
order. If all workloads are priced alike, each cost is the amount at its place times that price: so
pricing commutes with merging. No time but zero may be moved to zero. -/
theorem merged_costs_aligned
    (h : ∀ b ∈ bs, (b.workload.usage.allotted x).UndatedAtOrigin) :
    let r := merged field subfields key bs
    (r.costSeries.of x.resource).times = (r.usage.allotted x).times ∧
      ∀ (price coefficient discount : ℚ) (cadence : Cadence),
        (∀ b ∈ bs, b.unitPrice x = price ∧ b.idleCoefficient = coefficient ∧
          b.terms.discount = discount ∧ b.terms.cadence = cadence) →
        r.costSeries.of x.resource = (r.usage.allotted x).map fun s =>
          ⟨s.time, s.value / x.unit *
            (price * (1 - discount) / coefficient * cadence.multiplier)⟩ := by
  intro r
  refine ⟨aligned_merged field subfields key h, fun price coefficient discount cadence halike => ?_⟩
  have hfactor : ∀ b ∈ bs, (b.tariff x).factor =
      price * (1 - discount) / coefficient * cadence.multiplier / x.unit := by
    intro b hb
    obtain ⟨rfl, rfl, rfl, rfl⟩ := halike b hb
    rfl
  have hproportional : r.Proportional x _ := proportional_merged field subfields key h hfactor
  rw [hproportional]
  refine List.map_congr_left fun s _ => ?_
  rw [Sample.scale, div_mul_eq_mul_div, div_mul_eq_mul_div _ x.unit, mul_comm _ s.value]

/-- Four workloads on nodes of one price, given memory in GiB. The undated samples of the first two
are dropped when these are merged, and the record is as empty as before. -/
def sampleBilled : List (Billed ℚ) :=
  [[⟨0, 5⟩], [⟨0, 7⟩], [⟨31, 2⟩, ⟨12, 3⟩], [⟨0, 1⟩, ⟨28, 4⟩]].map fun amounts =>
    { workload :=
        { node := { ramCost := "3" }
          usage := { ram := { allocation := Series.scale bytesPerGiB amounts } } }
      terms := { cadence := .daily, discount := 1 / 4 }
      idleCoefficient := 1 / 2 }

theorem merged_costs_aligned_sample :
    let r := merged .cluster [] "east" sampleBilled
    (∀ b ∈ sampleBilled, (b.workload.usage.allotted .ram).UndatedAtOrigin) ∧
      (∀ b ∈ sampleBilled, b.unitPrice .ram = 3 ∧ b.idleCoefficient = 1 / 2 ∧
        b.terms.discount = 1 / 4 ∧ b.terms.cadence = .daily) ∧
      r.usage.ram.allocation = Series.scale bytesPerGiB [⟨10, 3⟩, ⟨30, 6⟩] ∧
      r.costSeries.ram = [⟨10, 324⟩, ⟨30, 648⟩] := by
  intro r
  have hundated : ∀ b ∈ sampleBilled, (b.workload.usage.allotted .ram).UndatedAtOrigin := by
    decide +kernel
  have halike : ∀ b ∈ sampleBilled, b.unitPrice .ram = 3 ∧ b.idleCoefficient = 1 / 2 ∧
      b.terms.discount = 1 / 4 ∧ b.terms.cadence = .daily := by decide +kernel
  have hgiven : r.usage.ram.allocation = Series.scale bytesPerGiB [⟨10, 3⟩, ⟨30, 6⟩] := by
    decide +kernel
  have hcost : r.costSeries.ram = r.usage.ram.allocation.map _ :=
    (merged_costs_aligned .cluster [] "east" hundated).2 3 (1 / 2) (1 / 4) .daily halike
  refine ⟨hundated, halike, hgiven, ?_⟩
  rw [hcost, hgiven]
  decide +kernel

end Record

namespace Report

variable {field : GroupField} {subfields : List String} {o : ReportOptions ℚ}

/-- A workload with what a report prices it by. -/
def billed (o : ReportOptions ℚ) (w : Workload ℚ) : Billed ℚ :=
  ⟨w, o.terms, o.idleCoefficient w.cluster⟩

/-- The record of a bucket is merged from the workloads that belong to it. -/
theorem gathered_eq_merged (key : String) (ws : List (Workload ℚ)) :
    gathered field subfields o key ws =
      Record.merged field subfields key
        ((ws.filter (belongs field subfields o key)).map (billed o)) := by
  rw [Record.merged, List.foldl_map]
  rfl

/-- **The buckets of a report are aligned**: each keeps the cost of a resource at the times of the
amounts. -/
theorem aligned_gathered (x : Allotment) (key : String) {ws : List (Workload ℚ)}
    (h : ∀ w ∈ ws, (w.usage.allotted x).UndatedAtOrigin) :
    (gathered field subfields o key ws).Aligned x := by
  rw [gathered_eq_merged]
  refine Record.aligned_merged field subfields key fun b hb => ?_
  obtain ⟨w, hw, rfl⟩ := List.mem_map.mp hb
  exact h w (List.mem_of_mem_filter hw)

end Report

end Chargeback

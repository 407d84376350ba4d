import Chargeback.Proofs.Report.Grouping
import Chargeback.Proofs.Report.Spending
import Chargeback.Proofs.Series.Splitting

/-!
# Records, resource by resource

The five cost series of a record are built in the same way: each accumulates what the workloads of
the bucket cost in one resource (`of_gathered`). The costs of the finalized record depend on the
totals of these series and, unless the number of periods is fixed from outside, on the length of the
longest of them (`costs_finalize_congr`).
-/

namespace Chargeback

/-- What is paid for. -/
inductive Resource where
  | cpu
  | ram
  | gpu
  | volume
  | network
  deriving DecidableEq, Repr

section Parts

variable {α : Type}

/-- The cost series of a resource. -/
def CostSeries.of (c : CostSeries α) : Resource → Series α
  | .cpu => c.cpu
  | .ram => c.ram
  | .gpu => c.gpu
  | .volume => c.volume
  | .network => c.network

/-- The cost of a resource. -/
def Costs.of (c : Costs α) : Resource → α
  | .cpu => c.cpu
  | .ram => c.ram
  | .gpu => c.gpu
  | .volume => c.volume
  | .network => c.network

/-- The series that a workload adds to the cost of a resource, in order. -/
def Priced.parts (p : Priced α) : Resource → List (Series α)
  | .cpu => [p.cpu]
  | .ram => [p.ram]
  | .gpu => [p.gpu]
  | .volume => p.volumes
  | .network => [p.network]

theorem Resource.forall_iff {p : Resource → Prop} :
    (∀ x, p x) ↔ p .cpu ∧ p .ram ∧ p .gpu ∧ p .volume ∧ p .network :=
  ⟨fun h => ⟨h .cpu, h .ram, h .gpu, h .volume, h .network⟩,
    fun ⟨hcpu, hram, hgpu, hvolume, hnetwork⟩ x => by cases x <;> assumption⟩

variable [Number α]

theorem CostSeries.of_merge (c : CostSeries α) (p : Priced α) (x : Resource) :
    (c.merge p).of x = (p.parts x).foldl (fun acc s => s.merge acc) (c.of x) := by
  cases x <;> rfl

namespace Report

/-- What the workloads of a bucket add to the cost of a resource, in the order of the workloads. -/
def contributions (field : GroupField) (subfields : List String) (o : ReportOptions α)
    (key : String) (ws : List (Workload α)) (x : Resource) : List (Series α) :=
  (ws.filter (belongs field subfields o key)).flatMap fun w => (o.priced w).parts x

/-- **The cost series of a bucket** are accumulated. -/
theorem of_gathered (field : GroupField) (subfields : List String) (o : ReportOptions α)
    (key : String) (ws : List (Workload α)) (x : Resource) :
    (gathered field subfields o key ws).costSeries.of x =
      Series.accumulate (contributions field subfields o key ws x) := by
  have hfold (us : List (Workload α)) (r : Record α) :
      (us.foldl (fun r w => r.merge w (o.priced w)) r).costSeries.of x =
        (us.flatMap fun w => (o.priced w).parts x).foldl (fun acc s => s.merge acc)
          (r.costSeries.of x) := by
    induction us generalizing r with
    | nil => rfl
    | cons w us ih =>
      have hmerge : (r.merge w (o.priced w)).costSeries.of x =
          ((o.priced w).parts x).foldl (fun acc s => s.merge acc) (r.costSeries.of x) :=
        CostSeries.of_merge r.costSeries (o.priced w) x
      rw [List.foldl_cons, ih, hmerge, List.flatMap_cons, List.foldl_append]
  have hempty : (Record.empty field subfields key : Record α).costSeries.of x = [] := by
    cases x <;> rfl
  rw [gathered, hfold, hempty, contributions, Series.accumulate]

end Report

/-! ## Costs -/

namespace Costs

theorem ofSeries_congr {c d : CostSeries α} (h : ∀ x, (c.of x).total = (d.of x).total)
    (share : α) : ofSeries c share = ofSeries d share := by
  have hcpu : c.cpu.total = d.cpu.total := h .cpu
  have hram : c.ram.total = d.ram.total := h .ram
  have hgpu : c.gpu.total = d.gpu.total := h .gpu
  have hvolume : c.volume.total = d.volume.total := h .volume
  have hnetwork : c.network.total = d.network.total := h .network
  simp only [ofSeries, hcpu, hram, hgpu, hvolume, hnetwork]

theorem of_withTotal (c : Costs α) (x : Resource) : c.withTotal.of x = c.of x := by
  cases x <;> rfl

theorem of_ofSeries (c : CostSeries α) (share : α) (x : Resource) :
    (ofSeries c share).of x = (c.of x).total := by
  cases x <;> rfl

end Costs

omit [Number α] in
theorem CostSeries.longest_congr {c d : CostSeries α}
    (h : ∀ x, (c.of x).length = (d.of x).length) : c.longest = d.longest := by
  have hcpu : c.cpu.length = d.cpu.length := h .cpu
  have hram : c.ram.length = d.ram.length := h .ram
  have hgpu : c.gpu.length = d.gpu.length := h .gpu
  have hvolume : c.volume.length = d.volume.length := h .volume
  have hnetwork : c.network.length = d.network.length := h .network
  simp only [CostSeries.longest, hcpu, hram, hgpu, hvolume, hnetwork]

/-- The number of periods does not depend on what is reported: the report is cumulative, or the
number is given. -/
def ReportOptions.FixesPeriods {α : Type} (o : ReportOptions α) : Prop :=
  o.terms.cadence = .cumulative ∨ ∃ n, o.periods = some n ∧ 0 < n

/-- The number of periods that costs are divided by: as many as given, or as the longest series
has. -/
def ReportOptions.periodCount {α : Type} (o : ReportOptions α) (longest : ℕ) : ℕ :=
  match o.periods with
  | some (n + 1) => n + 1
  | some 0 | none => longest

theorem periods_filter_getD {α : Type} (o : ReportOptions α) (longest : ℕ) :
    (o.periods.filter (0 < ·)).getD longest = o.periodCount longest := by
  unfold ReportOptions.periodCount
  cases o.periods with
  | none => rfl
  | some n => cases n <;> rfl

/-- The number of periods of a report that is not cumulative. -/
def ReportOptions.periods? {α : Type} (o : ReportOptions α) (longest : ℕ) : Option ℕ :=
  if o.terms.cadence = .cumulative then none else some (o.periodCount longest)

/-- A cost over a number of periods. If there is no such number, or it is zero, the cost stays as it
is. -/
def overPeriods (periods? : Option ℕ) (cost : α) : α :=
  match periods? with
  | some (n + 1) => cost / Number.ofNat (n + 1)
  | some 0 | none => cost

theorem Costs.of_perPeriod (c : Costs α) (n : ℕ) (x : Resource) :
    (c.perPeriod n).of x = overPeriods (some n) (c.of x) := by
  cases n with
  | zero => rfl
  | succ n => cases x <;> rfl

theorem Costs.shared_perPeriod (c : Costs α) (n : ℕ) :
    (c.perPeriod n).shared = overPeriods (some n) c.shared := by
  cases n <;> rfl

namespace Record

theorem costs_finalize_eq (r : Record α) (share : α) (o : ReportOptions α) :
    (r.finalize share o).costs =
      (if o.terms.cadence.isCumulative then Costs.ofSeries r.costSeries share
      else (Costs.ofSeries r.costSeries share).perPeriod
        ((o.periods.filter (0 < ·)).getD r.costSeries.longest)).withTotal := by
  rw [costs_finalize]
  unfold normalized
  split <;> rfl

/-- **The costs of a record** are the totals of its series, over the periods of the report. -/
theorem of_costs_finalize (r : Record α) (share : α) (o : ReportOptions α) (x : Resource) :
    (r.finalize share o).costs.of x =
      overPeriods (o.periods? r.costSeries.longest) (r.costSeries.of x).total := by
  rw [costs_finalize_eq, Costs.of_withTotal, periods_filter_getD, ReportOptions.periods?]
  by_cases h : o.terms.cadence = .cumulative
  · rw [if_pos h, if_pos (by rw [h]; rfl), Costs.of_ofSeries]
    rfl
  · have hcumulative : ¬ o.terms.cadence.isCumulative = true := mt beq_iff_eq.mp h
    rw [if_neg h, if_neg hcumulative, Costs.of_perPeriod, Costs.of_ofSeries]

/-- The share of a record is that of its bucket, over the same periods. -/
theorem shared_costs_finalize (r : Record α) (share : α) (o : ReportOptions α) :
    (r.finalize share o).costs.shared = overPeriods (o.periods? r.costSeries.longest) share := by
  have hshared (c : Costs α) : c.withTotal.shared = c.shared := rfl
  rw [costs_finalize_eq, hshared, periods_filter_getD, ReportOptions.periods?]
  by_cases h : o.terms.cadence = .cumulative
  · rw [if_pos h, if_pos (by rw [h]; rfl)]
    rfl
  · have hcumulative : ¬ o.terms.cadence.isCumulative = true := mt beq_iff_eq.mp h
    rw [if_neg h, if_neg hcumulative, Costs.shared_perPeriod]
    rfl

/-- The total of a record is that of its other costs, from left to right. -/
theorem total_costs_finalize (r : Record α) (share : α) (o : ReportOptions α) :
    let c := (r.finalize share o).costs
    c.total = c.cpu + c.ram + c.gpu + c.volume + c.network + c.shared := by
  rw [costs_finalize_eq]
  rfl

/-- A resource with the same series costs the same, over the same periods. -/
theorem of_finalize_congr {r r' : Record α} {o o' : ReportOptions α} {x : Resource}
    (share share' : α) (htime : o'.timeSeries = o.timeSeries)
    (hperiods : o'.periods? r'.costSeries.longest = o.periods? r.costSeries.longest)
    (hseries : r'.costSeries.of x = r.costSeries.of x) :
    (r'.finalize share' o').costSeries.of x = (r.finalize share o).costSeries.of x ∧
      (r'.finalize share' o').costs.of x = (r.finalize share o).costs.of x := by
  constructor
  · rw [costSeries_finalize, costSeries_finalize, htime]
    split
    · exact hseries
    · rfl
  · rw [of_costs_finalize, of_costs_finalize, hperiods, hseries]

/-- **What the costs of a record depend on.** -/
theorem costs_finalize_congr {r r' : Record α} (share : α) {o : ReportOptions α}
    (htotal : ∀ x, (r.costSeries.of x).total = (r'.costSeries.of x).total)
    (hlongest : o.FixesPeriods ∨ r.costSeries.longest = r'.costSeries.longest) :
    (r.finalize share o).costs = (r'.finalize share o).costs := by
  rw [costs_finalize_eq, costs_finalize_eq, Costs.ofSeries_congr htotal]
  rcases hlongest with (hcumulative | ⟨n, hn, hpos⟩) | hlongest
  · simp only [hcumulative, Cadence.isCumulative, beq_self_eq_true, if_true]
  · have hfilter : o.periods.filter (0 < ·) = some n := by
      rw [hn, Option.filter_some, if_pos (decide_eq_true hpos)]
    rw [hfilter, Option.getD_some, Option.getD_some]
  · rw [hlongest]

end Record

end Parts

/-! ## Exact costs of workloads -/

/-- The cost of a workload is that of its resources. -/
theorem Priced.total_eq (p : Priced ℚ) :
    p.total = Series.total (p.parts .cpu).flatten + Series.total (p.parts .ram).flatten +
      Series.total (p.parts .gpu).flatten + Series.total (p.parts .volume).flatten +
      Series.total (p.parts .network).flatten := by
  simp only [Priced.total, Priced.resourceTotal, Priced.parts, Exact.sum_eq, Series.sum_map_total,
    List.flatten_cons, List.flatten_nil, List.append_nil]

theorem Priced.OffOrigin.parts {p : Priced ℚ} (h : p.OffOrigin) (x : Resource) :
    ∀ s ∈ p.parts x, s.OffOrigin := by
  cases x with
  | cpu => simpa [Priced.parts] using h.cpu
  | ram => simpa [Priced.parts] using h.ram
  | gpu => simpa [Priced.parts] using h.gpu
  | volume => exact h.volumes
  | network => simpa [Priced.parts] using h.network

end Chargeback

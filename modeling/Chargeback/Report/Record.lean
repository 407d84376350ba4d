import Chargeback.Pricing.Priced
import Chargeback.Report.Efficiency
import Chargeback.Report.Field
import Chargeback.Series.Merge

/-!
# Records

The record of a bucket accumulates the usage and the priced cost of the workloads merged into it,
series by series. At the end of a report it is finalized: cost series are summed up, the share of
the pooled cost is added, costs are divided by the number of periods unless the report is
cumulative, and efficiency is scored and series are dropped as the report asks.
-/

namespace Chargeback

variable {α : Type} [Number α]

/-- The clusters that the workloads of a bucket name, in ascending order. -/
structure Attribution where
  named : List String
  ascending : named.Pairwise (· < ·)
  deriving DecidableEq, Repr

namespace Attribution

instance : EmptyCollection Attribution := ⟨{ named := [], ascending := .nil }⟩

@[simp] theorem named_empty : (∅ : Attribution).named = [] := rfl

/-- Takes one more workload's cluster into account. The empty identifier names none. -/
def add (a : Attribution) (cluster : String) : Attribution :=
  if cluster = "" then a
  else
    { named := insertDistinct cluster a.named, ascending := pairwise_insertDistinct a.ascending }

/-- The cluster, if it is the only one. -/
def cluster? (a : Attribution) : Option String :=
  match a.named with
  | [c] => some c
  | _ => none

theorem mem_named_add {a : Attribution} {cluster c : String} :
    c ∈ (a.add cluster).named ↔ c ∈ a.named ∨ c = cluster ∧ c ≠ "" := by
  unfold add
  split
  · next h => simp [h]
  · next h =>
    rw [mem_insertDistinct]
    constructor
    · rintro (rfl | hc)
      · exact .inr ⟨rfl, h⟩
      · exact .inl hc
    · rintro (hc | ⟨rfl, -⟩)
      · exact .inr hc
      · exact .inl rfl

/-- One name, and no other. -/
theorem cluster?_eq_some_iff {a : Attribution} {c : String} :
    a.cluster? = some c ↔ c ∈ a.named ∧ ∀ d ∈ a.named, d = c := by
  have hascending := a.ascending
  unfold cluster?
  split
  · next d h => simp [h, eq_comm]
  · next h =>
    refine iff_of_false nofun fun ⟨hc, hall⟩ => ?_
    -- two different names would both be `c`
    match hnamed : a.named with
    | [] => exact List.not_mem_nil (hnamed ▸ hc)
    | [d] => exact h d hnamed
    | d :: e :: names =>
      rw [hnamed] at hascending hall
      have hlt : d < e := (List.pairwise_cons.mp hascending).1 e List.mem_cons_self
      rw [hall d List.mem_cons_self, hall e (List.mem_cons_of_mem d List.mem_cons_self)] at hlt
      exact String.lt_irrefl c hlt

/-- No name, or two. -/
theorem cluster?_eq_none_iff {a : Attribution} :
    a.cluster? = none ↔ a.named = [] ∨ ∃ c ∈ a.named, ∃ d ∈ a.named, c ≠ d := by
  have hnone : a.cluster? = none ↔ ∀ c ∈ a.named, ∃ d ∈ a.named, d ≠ c := by
    rw [Option.eq_none_iff_forall_ne_some]
    simp only [ne_eq, cluster?_eq_some_iff, not_and, Classical.not_forall, exists_prop]
  rw [hnone]
  cases hnamed : a.named with
  | nil => simp
  | cons c names =>
    simp only [reduceCtorEq, false_or]
    constructor
    · intro h
      obtain ⟨d, hd, hne⟩ := h c List.mem_cons_self
      exact ⟨d, hd, c, List.mem_cons_self, hne⟩
    · rintro ⟨d, hd, e, he, hne⟩ f -
      by_cases hdf : d = f
      · exact ⟨e, he, fun hef => hne (hdf.trans hef.symm)⟩
      · exact ⟨d, hd, hdf⟩

end Attribution

/-- The cost of a bucket over time, by resource. -/
structure CostSeries (α : Type) where
  cpu : Series α := []
  ram : Series α := []
  gpu : Series α := []
  volume : Series α := []
  network : Series α := []
  deriving Repr

/-- The costs of a bucket. -/
structure Costs (α : Type) where
  cpu : α
  ram : α
  gpu : α
  volume : α
  network : α
  /-- The share of the pooled cost. -/
  shared : α
  total : α
  deriving Repr

/-- The efficiency scores of a bucket, as far as they have been computed. -/
structure Scores (α : Type) where
  cpu : Option α := none
  ram : Option α := none
  overall : Option α := none
  deriving Repr

/-- What a report says about one bucket. -/
structure Record (α : Type) where
  field : GroupField
  subfields : List String
  /-- The bucket's key. -/
  key : String
  /-- The cluster of all its workloads, if there is only one. -/
  cluster : Option String := none
  costs : Costs α
  scores : Scores α := {}
  costSeries : CostSeries α := {}
  /-- Kept for scoring, and not part of a written report. -/
  usage : Usage α := {}
  attribution : Attribution := ∅
  deriving Repr

/-! ## Merging -/

namespace Utilization

/-- Merges the utilization of a workload into an accumulated one. -/
def merge (new acc : Utilization α) : Utilization α where
  allocation := new.allocation.merge acc.allocation
  requested := new.requested.merge acc.requested
  used := new.used.merge acc.used

end Utilization

namespace Usage

/-- Merges the usage of a workload into an accumulated one. -/
def merge (new acc : Usage α) : Usage α where
  cpu := new.cpu.merge acc.cpu
  ram := new.ram.merge acc.ram
  gpu := new.gpu.merge acc.gpu

end Usage

namespace CostSeries

/-- Merges the cost of a workload into what has accumulated, its volumes one after another. -/
def merge (acc : CostSeries α) (new : Priced α) : CostSeries α where
  cpu := new.cpu.merge acc.cpu
  ram := new.ram.merge acc.ram
  gpu := new.gpu.merge acc.gpu
  volume := new.volumes.foldl (fun acc v => v.merge acc) acc.volume
  network := new.network.merge acc.network

/-- The length of the longest series. -/
def longest (c : CostSeries α) : Nat :=
  max c.cpu.length (max c.ram.length (max c.volume.length (max c.gpu.length c.network.length)))

end CostSeries

namespace Costs

/-- Before anything has been summed up. -/
def zero : Costs α :=
  { cpu := 0, ram := 0, gpu := 0, volume := 0, network := 0, shared := 0, total := 0 }

/-- The sums of the series, with a share of the pooled cost and the total still open. -/
def ofSeries (c : CostSeries α) (share : α) : Costs α where
  cpu := c.cpu.total
  ram := c.ram.total
  gpu := c.gpu.total
  volume := c.volume.total
  network := c.network.total
  shared := share
  total := 0

/-- Each cost over a number of periods; no number of periods leaves the costs as they are. -/
def perPeriod (c : Costs α) (periods : Nat) : Costs α :=
  if periods = 0 then c
  else
    let n : α := Number.ofNat periods
    { c with
      cpu := c.cpu / n
      ram := c.ram / n
      gpu := c.gpu / n
      volume := c.volume / n
      network := c.network / n
      shared := c.shared / n }

/-- Adds up the total. -/
def withTotal (c : Costs α) : Costs α :=
  { c with total := c.cpu + c.ram + c.gpu + c.volume + c.network + c.shared }

end Costs

namespace Scores

def ofEfficiency (e : Efficiency α) : Scores α := ⟨some e.cpu, some e.ram, some e.overall⟩

/-- Whether a score that has been computed lies outside `[0, 1]`. -/
def isAnomalous (s : Scores α) : Bool :=
  [s.cpu, s.ram, s.overall].any fun score => score.any Number.outsideUnit

end Scores

namespace Record

/-- The record of a bucket without workloads. -/
def empty (field : GroupField) (subfields : List String) (key : String) : Record α :=
  { field, subfields, key, costs := .zero }

/-- Merges a workload and its cost into the bucket. -/
def merge (r : Record α) (w : Workload α) (priced : Priced α) : Record α :=
  { r with
    usage := w.usage.merge r.usage
    costSeries := r.costSeries.merge priced
    attribution := r.attribution.add w.cluster }

/-! ## Finalizing -/

/-- The efficiency of the accumulated usage, weighed by the costs of the record. -/
def efficiency (r : Record α) : Efficiency α :=
  .ofIdle r.usage.cpu.idleFraction r.usage.ram.idleFraction r.costs.cpu r.costs.ram

/-- Sums up the cost series and settles the cluster. -/
def summed (r : Record α) (share : α) : Record α :=
  { r with costs := .ofSeries r.costSeries share, cluster := r.attribution.cluster? }

/-- Divides the costs by the number of periods: as many as given, or as the longest series has. A
cumulative report is not divided. -/
def normalized (r : Record α) (cadence : Cadence) (periods : Option Nat) : Record α :=
  if cadence.isCumulative then r
  else
    let n := (periods.filter (0 < ·)).getD r.costSeries.longest
    { r with costs := r.costs.perPeriod n }

/-- Adds up the total cost. -/
def totalled (r : Record α) : Record α := { r with costs := r.costs.withTotal }

/-- Scores the efficiency. -/
def scored (r : Record α) : Record α := { r with scores := .ofEfficiency r.efficiency }

/-- Drops all series. -/
def withoutSeries (r : Record α) : Record α := { r with costSeries := {}, usage := {} }

/-- Whether a score lies outside `[0, 1]`. -/
def isAnomalous (r : Record α) : Bool := r.scores.isAnomalous

end Record

end Chargeback

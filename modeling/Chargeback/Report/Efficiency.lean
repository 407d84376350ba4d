import Chargeback.Workload.Basic

/-!
# Efficiency

The idle fraction of a resource is what was requested and not used, on average, relative to what was
allocated; its efficiency is one minus that. Without an allocation nothing can be idle, and the
score is one. The overall score weighs the idle fractions by cost. Scores are not clamped: outside
`[0, 1]` they are reported as anomalies.
-/

namespace Chargeback

/-- The scores of one bucket. -/
structure Efficiency (α : Type) where
  cpu : α
  ram : α
  overall : α
  deriving Repr

variable {α : Type} [Number α]

/-- The part of the allocation that was requested and not used, zero without an allocation. -/
def Utilization.idleFraction (u : Utilization α) : α :=
  if 0 < u.allocation.average then
    (u.requested.average - u.used.average) / u.allocation.average
  else 0

namespace Efficiency

/-- The scores for given idle fractions and costs. -/
def ofIdle (cpuIdle ramIdle cpuCost ramCost : α) : Efficiency α :=
  let combined := cpuCost + ramCost
  { cpu := 1 - cpuIdle
    ram := 1 - ramIdle
    overall :=
      if 0 < combined then 1 - (cpuCost * cpuIdle + ramCost * ramIdle) / combined else 1 }

/-- Whether a score lies outside `[0, 1]`. -/
def isAnomalous (e : Efficiency α) : Bool :=
  Number.outsideUnit e.cpu || Number.outsideUnit e.ram || Number.outsideUnit e.overall

end Efficiency

end Chargeback

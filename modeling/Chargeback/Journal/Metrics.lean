import Chargeback.Index
import Chargeback.Journal.Event

/-!
# Metrics

Counters and gauges are what a sequence of effects makes of them: every counter is the number of
times it was counted, every gauge the last value that it was set to.
-/

namespace Chargeback

/-- The state of all counters and gauges. -/
structure Metrics (α : Type) where
  aggregated : Nat := 0
  shared : Nat := 0
  skipped : Nat := 0
  withoutBilling : Nat := 0
  reports : Nat := 0
  /-- The number of buckets in the latest report. -/
  buckets : Int := 0
  /-- The latest computed idle coefficient of each cluster. -/
  coefficients : Index α := ∅

namespace Metrics

variable {α : Type}

/-- Counts one more. -/
def count (m : Metrics α) : Counter → Metrics α
  | .aggregated => { m with aggregated := m.aggregated + 1 }
  | .shared => { m with shared := m.shared + 1 }
  | .skipped => { m with skipped := m.skipped + 1 }
  | .withoutBilling => { m with withoutBilling := m.withoutBilling + 1 }
  | .reports => { m with reports := m.reports + 1 }

/-- The metrics after one effect. -/
def record (m : Metrics α) : Effect α → Metrics α
  | .count c => m.count c
  | .buckets n => { m with buckets := n }
  | .coefficient cluster value => { m with coefficients := m.coefficients.insert cluster value }
  | .event _ | .billingQuery .. => m

/-- The metrics after a list of effects. -/
def recordAll (m : Metrics α) (effects : List (Effect α)) : Metrics α := effects.foldl record m

@[simp] theorem recordAll_nil (m : Metrics α) : m.recordAll [] = m := rfl

theorem recordAll_append (m : Metrics α) (es fs : List (Effect α)) :
    m.recordAll (es ++ fs) = (m.recordAll es).recordAll fs := by
  simp [recordAll]

end Metrics

end Chargeback

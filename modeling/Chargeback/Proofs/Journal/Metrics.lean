import Chargeback.Journal.Metrics
import Chargeback.Proofs.Pricing.Events

/-!
# Counters and gauges

What a list of effects does to the metrics is told by what it contains: a counter grows by the
number of times it is counted (`reading_recordAll`), and a gauge that is not set stays as it is
(`buckets_recordAll_of_not_set`, `get?_coefficients_recordAll_of_not_set`). Complaints about prices
move nothing (`Journaled.Complains.recordAll_eq`).
-/

namespace Chargeback

variable {α : Type}

/-- How often a counter is counted up. -/
def Effect.countOf (c : Counter) (effects : List (Effect α)) : Nat :=
  effects.countP fun
    | .count d => d = c
    | _ => false

/-- The effect sets the gauge of the number of buckets. -/
def Effect.SetsBuckets (e : Effect α) : Prop := ∃ n, e = .buckets n

/-- The effect sets the gauge of a cluster. -/
def Effect.SetsCoefficient (e : Effect α) (cluster : String) : Prop :=
  ∃ value, e = .coefficient cluster value

namespace Effect

@[simp] theorem countOf_nil (c : Counter) : countOf c ([] : List (Effect α)) = 0 := rfl

theorem countOf_cons (c : Counter) (e : Effect α) (es : List (Effect α)) :
    countOf c (e :: es) = countOf c es + countOf c [e] := by
  rw [countOf, List.countP_cons, countOf, countOf, List.countP_singleton]

theorem countOf_append (c : Counter) (es fs : List (Effect α)) :
    countOf c (es ++ fs) = countOf c es + countOf c fs := List.countP_append

theorem countOf_eq_zero_iff {c : Counter} {es : List (Effect α)} :
    countOf c es = 0 ↔ .count c ∉ es := by
  rw [countOf, List.countP_eq_zero]
  constructor
  · intro h hmem
    simpa using h _ hmem
  · intro h e he
    cases e with
    | count d =>
      rw [decide_eq_true_eq]
      rintro rfl
      exact h he
    | event | buckets | coefficient | billingQuery => exact Bool.false_ne_true

end Effect

namespace Metrics

/-- What a counter shows. -/
def reading (m : Metrics α) : Counter → Nat
  | .aggregated => m.aggregated
  | .shared => m.shared
  | .skipped => m.skipped
  | .withoutBilling => m.withoutBilling
  | .reports => m.reports

theorem recordAll_cons (m : Metrics α) (e : Effect α) (es : List (Effect α)) :
    m.recordAll (e :: es) = (m.record e).recordAll es := rfl

/-- One effect counts one counter up, or none. -/
theorem reading_record (m : Metrics α) (e : Effect α) (c : Counter) :
    (m.record e).reading c = m.reading c + Effect.countOf c [e] := by
  cases e with
  | count d => cases d <;> cases c <;> rfl
  | event | buckets | coefficient | billingQuery => cases c <;> rfl

/-- **A counter grows** by the number of times it is counted. -/
theorem reading_recordAll (m : Metrics α) (es : List (Effect α)) (c : Counter) :
    (m.recordAll es).reading c = m.reading c + Effect.countOf c es := by
  induction es generalizing m with
  | nil => rfl
  | cons e es ih =>
    rw [recordAll_cons, ih, reading_record, Effect.countOf_cons c e es]
    omega

theorem buckets_record_of_not_set (m : Metrics α) {e : Effect α} (h : ¬ e.SetsBuckets) :
    (m.record e).buckets = m.buckets := by
  cases e with
  | buckets n => exact absurd ⟨n, rfl⟩ h
  | count d => cases d <;> rfl
  | event | coefficient | billingQuery => rfl

/-- The gauge of the number of buckets is moved by what sets it. -/
theorem buckets_recordAll_of_not_set (m : Metrics α) {es : List (Effect α)}
    (h : ∀ e ∈ es, ¬ e.SetsBuckets) : (m.recordAll es).buckets = m.buckets := by
  induction es generalizing m with
  | nil => rfl
  | cons e es ih =>
    obtain ⟨he, hes⟩ := List.forall_mem_cons.mp h
    rw [recordAll_cons, ih _ hes, buckets_record_of_not_set m he]

theorem get?_coefficients_record_of_not_set (m : Metrics α) {e : Effect α} {cluster : String}
    (h : ¬ e.SetsCoefficient cluster) :
    (m.record e).coefficients.get? cluster = m.coefficients.get? cluster := by
  cases e with
  | coefficient c value =>
    have hne : cluster ≠ c := by
      rintro rfl
      exact h ⟨value, rfl⟩
    exact (m.coefficients.get?_insert c cluster value).trans (if_neg hne)
  | count d => cases d <;> rfl
  | event | buckets | billingQuery => rfl

/-- The gauge of a cluster is moved by what sets it. -/
theorem get?_coefficients_recordAll_of_not_set (m : Metrics α) {es : List (Effect α)}
    {cluster : String} (h : ∀ e ∈ es, ¬ e.SetsCoefficient cluster) :
    (m.recordAll es).coefficients.get? cluster = m.coefficients.get? cluster := by
  induction es generalizing m with
  | nil => rfl
  | cons e es ih =>
    obtain ⟨he, hes⟩ := List.forall_mem_cons.mp h
    rw [recordAll_cons, ih _ hes, get?_coefficients_record_of_not_set m he]

/-- A gauge that is set to one value only shows it. -/
theorem get?_coefficients_recordAll_of_set (m : Metrics α) {es : List (Effect α)} {cluster : String}
    {value : α} (hmem : .coefficient cluster value ∈ es)
    (h : ∀ x, .coefficient cluster x ∈ es → x = value) :
    (m.recordAll es).coefficients.get? cluster = some value := by
  induction es generalizing m with
  | nil => cases hmem
  | cons e es ih =>
    rw [recordAll_cons]
    by_cases hset : ∃ x, .coefficient cluster x ∈ es
    · obtain ⟨x, hx⟩ := hset
      obtain rfl := h x (List.mem_cons_of_mem _ hx)
      exact ih _ hx fun y hy => h y (List.mem_cons_of_mem _ hy)
    · -- the first effect is the one that sets the gauge
      obtain rfl : .coefficient cluster value = e :=
        (List.mem_cons.mp hmem).resolve_right fun hrest => hset ⟨value, hrest⟩
      have hrest : ∀ e ∈ es, ¬ e.SetsCoefficient cluster := by
        rintro e he ⟨x, rfl⟩
        exact hset ⟨x, he⟩
      rw [get?_coefficients_recordAll_of_not_set _ hrest]
      exact (m.coefficients.get?_insert cluster cluster value).trans (if_pos rfl)

/-- Events move no metric. -/
theorem recordAll_of_events (m : Metrics α) {es : List (Effect α)}
    (h : ∀ e ∈ es, ∃ event, e = .event event) : m.recordAll es = m := by
  induction es with
  | nil => rfl
  | cons e es ih =>
    obtain ⟨⟨event, rfl⟩, hes⟩ := List.forall_mem_cons.mp h
    exact ih hes

end Metrics

/-! ## Complaints about prices -/

namespace Journaled.Complains

variable {β : Type} {x : Journaled (Effect α) β}

theorem exists_event (h : x.Complains) {e : Effect α} (he : e ∈ x.journal) :
    ∃ event, e = .event event := by
  obtain ⟨price, defect, rfl⟩ := h e he
  exact ⟨_, rfl⟩

theorem countOf_eq_zero (h : x.Complains) (c : Counter) : Effect.countOf c x.journal = 0 := by
  rw [Effect.countOf_eq_zero_iff]
  intro hmem
  obtain ⟨event, hevent⟩ := h.exists_event hmem
  cases hevent

/-- Complaints move no metric. -/
theorem recordAll_eq (h : x.Complains) (m : Metrics α) : m.recordAll x.journal = m :=
  m.recordAll_of_events fun _ => h.exists_event

end Journaled.Complains

end Chargeback

import Mathlib.Data.List.Sort
import Chargeback.Proofs.Idle.Locality
import Chargeback.Proofs.Journal.Metrics

/-!
# What an estimation tells, also when it fails midway

An estimation tells of its clusters in ascending order, and a cluster that fails has told of nothing
(`journal_outcome_of_error`). So the visits up to a failing cluster tell what the visits to the
lesser clusters alone do (`run_visits_of_failing`), and these are the clusters of the inventory cut
at the failing one (`Inventory.below`, `outcome_below`): a failed estimation has done to its
surroundings what the estimation of the lesser clusters does. Of each cluster that it tells of, an
estimation tells one conclusion (`Concludes`), from which the counters and gauges follow.
-/

namespace Chargeback

variable {α : Type}

/-! ## Conclusions -/

namespace Event

/-- The event tells that a cluster has a computed coefficient. -/
def Informs (e : Event α) (cluster : String) (value : α) : Prop :=
  e.level = .info ∧ ∃ observed billed, e = .idleCoefficient cluster observed billed value

/-- The event warns that a cluster has no computed coefficient. -/
def Warns (e : Event α) (cluster : String) : Prop :=
  e.level = .warn ∧
    ((∃ gap, e = .missingBilling cluster gap) ∨ ∃ billed, e = .unobservedCluster cluster billed)

/-- The cluster that an estimation tells of by the event. -/
def estimated? : Event α → Option String
  | .idleCoefficient cluster .. | .missingBilling cluster _ | .unobservedCluster cluster _ =>
    some cluster
  | _ => none

end Event

/-- The cluster that an estimation tells of by the effect. -/
def Effect.estimated? : Effect α → Option String
  | .event e => e.estimated?
  | .coefficient cluster _ => some cluster
  | _ => none

/-- The effect is one that an estimation has: it moves no counter of workloads or reports, and not
the gauge of the number of buckets. -/
def Effect.OfEstimation : Effect α → Prop
  | .event _ | .count .withoutBilling | .coefficient .. | .billingQuery .. => True
  | _ => False

/-- What is told of a cluster in the end: its coefficient is computed, and its gauge is set to it, or
there is a warning, the cluster is counted, and its coefficient is one. -/
inductive Concludes [One α] (cluster : String) (value : α) : List (Effect α) → Prop
  | computed {e : Event α} (h : e.Informs cluster value) :
      Concludes cluster value [.event e, .coefficient cluster value]
  | defaulted {e : Event α} (h : e.Warns cluster) (hone : value = 1) :
      Concludes cluster value [.event e, .count .withoutBilling]

variable [Number α]

theorem Outcome.concludes (cluster : String) (o : Outcome α) :
    Concludes cluster o.coefficient (o.effects cluster) := by
  cases o with
  | unbilled gap => exact .defaulted ⟨rfl, .inl ⟨gap, rfl⟩⟩ rfl
  | unobserved billed => exact .defaulted ⟨rfl, .inr ⟨billed, rfl⟩⟩ rfl
  | estimated observed billed => exact .computed ⟨rfl, observed, billed, rfl⟩

namespace Concludes

variable {cluster c : String} {value : α} {es : List (Effect α)}

/-- A conclusion is about its cluster. -/
theorem estimated?_of_mem (h : Concludes cluster value es) {e : Effect α} (he : e ∈ es)
    (hc : e.estimated? = some c) : c = cluster := by
  cases h with
  | computed h =>
    obtain ⟨-, observed, billed, rfl⟩ := h
    simp only [List.mem_cons, List.not_mem_nil, or_false] at he
    rcases he with rfl | rfl <;> exact (Option.some.inj hc).symm
  | defaulted h =>
    obtain ⟨-, ⟨gap, rfl⟩ | ⟨billed, rfl⟩⟩ := h <;>
      simp only [List.mem_cons, List.not_mem_nil, or_false] at he <;>
      rcases he with rfl | rfl
    · exact (Option.some.inj hc).symm
    · cases hc
    · exact (Option.some.inj hc).symm
    · cases hc

/-- A cluster is counted once for each warning. -/
theorem countOf_withoutBilling (h : Concludes cluster value es) :
    Effect.countOf .withoutBilling es = (Effect.events es).countP fun e => e.level = .warn := by
  cases h with
  | computed h => simp [Effect.countOf, Effect.events, h.1]
  | defaulted h => simp [Effect.countOf, Effect.events, h.1]

/-- The gauge that a conclusion sets is that of its cluster, and it tells so. -/
theorem coefficient_mem_iff (h : Concludes cluster value es) {x : α} :
    .coefficient c x ∈ es ↔ ∃ e, .event e ∈ es ∧ e.Informs c x := by
  cases h with
  | @computed e h =>
    obtain ⟨-, observed, billed, rfl⟩ := h
    constructor
    · intro hmem
      obtain ⟨rfl, rfl⟩ : c = cluster ∧ x = value := by simpa using hmem
      exact ⟨_, List.mem_cons_self, rfl, observed, billed, rfl⟩
    · rintro ⟨e, hmem, -, observed', billed', rfl⟩
      obtain ⟨rfl, -, -, rfl⟩ :
          c = cluster ∧ observed' = observed ∧ billed' = billed ∧ x = value := by
        simpa using hmem
      simp
  | @defaulted e h hone =>
    constructor
    · intro hmem
      simp at hmem
    · rintro ⟨e', hmem, hinfo, -⟩
      obtain rfl : e' = e := by simpa using hmem
      have hlevel : Level.info = Level.warn := hinfo.symm.trans h.1
      cases hlevel

theorem eq_of_coefficient_mem (h : Concludes cluster value es) {x : α}
    (hmem : .coefficient c x ∈ es) : c = cluster ∧ x = value := by
  cases h with
  | computed h => simpa using hmem
  | defaulted h hone => simp at hmem

end Concludes

/-! ## The visits -/

section Visits

variable {inventory : Inventory α} {billing : Billing} {terms : Terms α} {window : Window}
  {cluster : String}

/-- A cluster that fails has told of nothing. -/
theorem journal_outcome_of_error {e : Fault}
    (h : (outcome inventory billing terms window cluster).run.value = .error e) :
    (outcome inventory billing terms window cluster).run.journal = [] := by
  rw [run_outcome] at h ⊢
  split at h
  · cases h
  · split at h
    · rfl
    · dsimp only at h
      split at h
      · cases h
      · split at h <;> cases h

/-- Clusters that have an outcome each are told of one after another. -/
theorem run_visits_of_outcomes {clusters : List String} (before : Index α)
    (h : ∀ c ∈ clusters, ∃ o, (outcome inventory billing terms window c).run.value = .ok o) :
    ∃ after, (clusters.foldlM (visit inventory billing terms window) before).run =
      ⟨.ok after, clusters.flatMap (account inventory billing terms window)⟩ := by
  cases hvalue : (clusters.foldlM (visit inventory billing terms window) before).run.value with
  | ok after =>
    have hvisited := visitedAll_of_run (congrArg (fun v => Journaled.mk v _) hvalue)
    refine ⟨after, ?_⟩
    rw [← hvalue, ← hvisited.journal]
    rfl
  | error e =>
    obtain ⟨pre, c, post, rfl, -, hc⟩ := exists_failing_of_visits hvalue
    obtain ⟨o, ho⟩ := h c (by simp)
    cases ho.symm.trans hc

/-- **Visits that fail** have told of the clusters before the failing one, and of nothing else. -/
theorem run_visits_of_failing {pre : List String} {c : String} {e : Fault} (post : List String)
    (before : Index α)
    (hpre : ∀ d ∈ pre, ∃ o, (outcome inventory billing terms window d).run.value = .ok o)
    (hc : (outcome inventory billing terms window c).run.value = .error e) :
    ((pre ++ c :: post).foldlM (visit inventory billing terms window) before).run =
      ⟨.error e, pre.flatMap (account inventory billing terms window)⟩ := by
  obtain ⟨after, hafter⟩ := run_visits_of_outcomes before hpre
  have hvisit : (visit inventory billing terms window after c).run = ⟨.error e, []⟩ := by
    rw [run_visit]
    simp only [hc, journal_outcome_of_error hc]
  rw [List.foldlM_append, EstimateM.run_bind, hafter]
  dsimp only
  rw [List.foldlM_cons, EstimateM.run_bind, hvisit]
  simp

/-- Outcomes agree on a cluster with the same workloads. -/
theorem outcome_congr {inventory' : Inventory α}
    (h : inventory'.own cluster = inventory.own cluster) :
    outcome inventory' billing terms window cluster =
      outcome inventory billing terms window cluster := by
  have hobserved : observedCost inventory' terms cluster = observedCost inventory terms cluster := by
    unfold observedCost
    rw [show (inventory'.values.filter fun w => w.cluster == cluster) = _ from h]
    rfl
  unfold outcome
  rw [hobserved]

theorem account_congr {inventory' : Inventory α}
    (h : inventory'.own cluster = inventory.own cluster) :
    account inventory' billing terms window cluster =
      account inventory billing terms window cluster := by
  rw [account, account, outcome_congr h]

theorem ofEstimation_of_mem_account {e : Effect α}
    (he : e ∈ account inventory billing terms window cluster) : e.OfEstimation := by
  rcases complaint_or_effect_of_mem_account he with ⟨price, defect, rfl⟩ | ⟨o, -, he⟩
  · trivial
  · cases o <;> simp only [Outcome.effects, List.mem_cons, List.not_mem_nil, or_false] at he <;>
      rcases he with rfl | rfl <;> trivial

end Visits

/-! ## The lesser clusters -/

namespace Inventory

/-- The workloads of the clusters below a cluster. -/
def below {α : Type} (inventory : Inventory α) (cluster : String) : Inventory α where
  entries := inventory.entries.filter fun e => e.2.cluster < cluster
  nodup := inventory.nodup.sublist (List.filter_sublist.map _)

omit [Number α] in
theorem values_below (inventory : Inventory α) (cluster : String) :
    (inventory.below cluster).values = inventory.values.filter fun w => w.cluster < cluster := by
  simp only [Assoc.values, below, List.filter_map, Function.comp_def]

omit [Number α] in
theorem own_below (inventory : Inventory α) {c cluster : String} (h : c < cluster) :
    (inventory.below cluster).own c = inventory.own c := by
  rw [own, own, values_below, List.filter_filter]
  refine List.filter_congr fun w _ => ?_
  by_cases hw : w.cluster = c
  · simp [hw, h]
  · simp [hw]

omit [Number α] in
/-- Cut at a cluster, an inventory keeps the clusters before it. -/
theorem clusters_below {inventory : Inventory α} {pre post : List String} {cluster : String}
    (h : inventory.clusters = pre ++ cluster :: post) :
    (inventory.below cluster).clusters = pre := by
  have hasc : (pre ++ cluster :: post).Pairwise (· < ·) := h ▸ inventory.pairwise_clusters
  obtain ⟨hpre, hpost, hcross⟩ := List.pairwise_append.mp hasc
  refine List.Pairwise.eq_of_mem_iff (pairwise_clusters _) hpre fun {c} => ?_
  have hmem : c ∈ (inventory.below cluster).clusters ↔ c ∈ inventory.clusters ∧ c < cluster := by
    simp only [mem_clusters, values_below, List.mem_map, List.mem_filter, decide_eq_true_eq]
    constructor
    · rintro ⟨w, ⟨hw, hlt⟩, rfl⟩
      exact ⟨⟨w, hw, rfl⟩, hlt⟩
    · rintro ⟨⟨w, hw, rfl⟩, hlt⟩
      exact ⟨w, ⟨hw, hlt⟩, rfl⟩
  rw [hmem, h]
  constructor
  · rintro ⟨hc, hlt⟩
    rcases List.mem_append.mp hc with hc | hc
    · exact hc
    · rcases List.mem_cons.mp hc with rfl | hc
      · exact absurd hlt (String.lt_irrefl c)
      · have hgt : cluster < c := (List.pairwise_cons.mp hpost).1 c hc
        exact absurd hlt (String.lt_asymm hgt)
  · intro hc
    exact ⟨List.mem_append_left _ hc, hcross c hc cluster List.mem_cons_self⟩

end Inventory

/-- Visits that fail over the bill of a cluster have told what the visits to the clusters of the cut
inventory do, which end well. -/
theorem run_visits_below {inventory : Inventory α} {billing : Billing} {terms : Terms α}
    {window : Window} {cluster : String} {item : BillItem} {amount : String}
    {defect : Numeral.Defect}
    (h : (inventory.clusters.foldlM (visit inventory billing terms window) ∅).run.value =
      .error (.invalidBillingTotal cluster item amount defect)) :
    ∃ found, ((inventory.below cluster).clusters.foldlM
        (visit (inventory.below cluster) billing terms window) ∅).run =
      ⟨.ok found,
        (inventory.clusters.foldlM (visit inventory billing terms window) ∅).run.journal⟩ := by
  obtain ⟨pre, c, post, hclusters, hpre, hc⟩ := exists_failing_of_visits h
  obtain ⟨_, _, _, hfault, -, -⟩ := unreadable_of_outcome hc
  obtain rfl : cluster = c := by cases hfault; rfl
  have hasc : (pre ++ cluster :: post).Pairwise (· < ·) := hclusters ▸ inventory.pairwise_clusters
  have hown : ∀ d ∈ pre, (inventory.below cluster).own d = inventory.own d := fun d hd =>
    inventory.own_below ((List.pairwise_append.mp hasc).2.2 d hd cluster List.mem_cons_self)
  have hbelow : ∀ d ∈ pre,
      ∃ o, (outcome (inventory.below cluster) billing terms window d).run.value = .ok o := by
    intro d hd
    rw [outcome_congr (hown d hd)]
    exact hpre d hd
  obtain ⟨found, hfound⟩ := run_visits_of_outcomes ∅ hbelow
  have haccounts : pre.flatMap (account (inventory.below cluster) billing terms window) =
      pre.flatMap (account inventory billing terms window) :=
    List.flatMap_congr fun d hd => account_congr (hown d hd)
  refine ⟨found, ?_⟩
  rw [Inventory.clusters_below hclusters, hfound, haccounts, hclusters,
    run_visits_of_failing post ∅ hpre hc]

/-! ## What is told of all clusters -/

/-- Each cluster of some is told of once, one after another: complaints about prices, and then the
conclusion with the coefficient that is found. -/
def Told (found : Index α) (journal : List (Effect α)) : Prop :=
  ∃ complaints conclusion : String → List (Effect α),
    journal = found.names.flatMap (fun c => complaints c ++ conclusion c) ∧
      ∀ c ∈ found.names,
        (∀ e ∈ complaints c, ∃ price defect, e = .event (.malformedPrice price defect)) ∧
          ∃ value, found.get? c = some value ∧ Concludes c value (conclusion c)

namespace Told

variable {found : Index α} {journal : List (Effect α)} {c : String} {value : α}

/-- An effect is a complaint, or is part of the conclusion on a cluster. -/
theorem complaint_or_concluded (h : Told found journal) {e : Effect α} (he : e ∈ journal) :
    (∃ price defect, e = .event (.malformedPrice price defect)) ∨
      ∃ c ∈ found.names, ∃ value conclusion, found.get? c = some value ∧
        Concludes c value conclusion ∧ e ∈ conclusion ∧ ∀ e ∈ conclusion, e ∈ journal := by
  obtain ⟨complaints, conclusion, rfl, htold⟩ := h
  obtain ⟨c, hc, he⟩ := List.mem_flatMap.mp he
  obtain ⟨hcomplaints, value, hvalue, hconcludes⟩ := htold c hc
  rcases List.mem_append.mp he with he | he
  · exact .inl (hcomplaints e he)
  · refine .inr ⟨c, hc, value, conclusion c, hvalue, hconcludes, he, fun e he => ?_⟩
    exact List.mem_flatMap.mpr ⟨c, hc, List.mem_append_right _ he⟩

/-- Nothing is told of other clusters. -/
theorem mem_names_of_estimated? (h : Told found journal) {e : Effect α} (he : e ∈ journal)
    (hc : e.estimated? = some c) : c ∈ found.names := by
  rcases h.complaint_or_concluded he with ⟨price, defect, rfl⟩ | ⟨d, hd, _, _, -, hconcludes, he, -⟩
  · cases hc
  · rwa [hconcludes.estimated?_of_mem he hc]

/-- A gauge is set to the coefficient of its cluster. -/
theorem get?_of_coefficient_mem (h : Told found journal) (hmem : .coefficient c value ∈ journal) :
    found.get? c = some value := by
  rcases h.complaint_or_concluded hmem with ⟨_, _, he⟩ | ⟨d, -, x, _, hx, hconcludes, he, -⟩
  · cases he
  · obtain ⟨rfl, rfl⟩ := hconcludes.eq_of_coefficient_mem he
    exact hx

/-- A gauge is set if there is the event that tells so, and only then. -/
theorem coefficient_mem_iff (h : Told found journal) :
    .coefficient c value ∈ journal ↔ ∃ e, .event e ∈ journal ∧ e.Informs c value := by
  constructor
  · intro hmem
    rcases h.complaint_or_concluded hmem with ⟨_, _, he⟩ | ⟨d, -, x, _, -, hconcludes, he, hsub⟩
    · cases he
    · obtain ⟨e, he, hinforms⟩ := hconcludes.coefficient_mem_iff.mp he
      exact ⟨e, hsub _ he, hinforms⟩
  · rintro ⟨e, hmem, hinforms⟩
    rcases h.complaint_or_concluded hmem with ⟨_, _, he⟩ | ⟨d, -, x, _, -, hconcludes, he, hsub⟩
    · obtain ⟨-, _, _, rfl⟩ := hinforms
      cases he
    · exact hsub _ (hconcludes.coefficient_mem_iff.mpr ⟨e, he, hinforms⟩)

/-- A cluster is counted once for each warning. -/
theorem countOf_withoutBilling (h : Told found journal) :
    Effect.countOf .withoutBilling journal =
      (Effect.events journal).countP fun e => e.level = .warn := by
  obtain ⟨complaints, conclusion, rfl, htold⟩ := h
  generalize found.names = names at htold ⊢
  induction names with
  | nil => rfl
  | cons c names ih =>
    have ih := ih fun d hd => htold d (List.mem_cons_of_mem _ hd)
    obtain ⟨hcomplaints, value, -, hconcludes⟩ := htold c List.mem_cons_self
    have hzero : Effect.countOf .withoutBilling (complaints c) = 0 := by
      rw [Effect.countOf_eq_zero_iff]
      intro hmem
      obtain ⟨_, _, he⟩ := hcomplaints _ hmem
      cases he
    have hquiet : ((Effect.events (complaints c)).countP fun e => e.level = .warn) = 0 := by
      rw [List.countP_eq_zero]
      intro e he
      obtain ⟨e', he', hsome⟩ := List.mem_filterMap.mp he
      obtain ⟨_, _, rfl⟩ := hcomplaints e' he'
      cases hsome
      exact Bool.false_ne_true
    have happend : ∀ es fs : List (Effect α),
        Effect.events (es ++ fs) = Effect.events es ++ Effect.events fs :=
      fun _ _ => List.filterMap_append
    simp only [List.flatMap_cons, Effect.countOf_append, happend, List.countP_append, hzero, hquiet,
      hconcludes.countOf_withoutBilling, ih]

end Told

/-- What an estimation has done to the metrics, as its journal tells it. -/
structure Measured (found : Index α) (journal : List (Effect α)) (before after : Metrics α) :
    Prop where
  /-- The clusters with a warning have been counted. -/
  withoutBilling : after.withoutBilling =
    before.withoutBilling + (Effect.events journal).countP fun e => e.level = .warn
  /-- The gauge of a cluster with a computed coefficient has been set to it. -/
  set : ∀ c value, (∃ e, .event e ∈ journal ∧ e.Informs c value) →
    found.get? c = some value ∧ after.coefficients.get? c = some value
  /-- No other gauge of a cluster has been touched. -/
  untouched : ∀ c, (¬ ∃ e value, .event e ∈ journal ∧ e.Informs c value) →
    after.coefficients.get? c = before.coefficients.get? c
  /-- Neither has anything else. -/
  counters : ∀ c, c ≠ .withoutBilling → after.reading c = before.reading c
  buckets : after.buckets = before.buckets

namespace Metrics

variable {es : List (Effect α)}

omit [Number α] in
theorem reading_recordAll_of_ofEstimation (m : Metrics α) (h : ∀ e ∈ es, e.OfEstimation)
    {c : Counter} (hc : c ≠ .withoutBilling) : (m.recordAll es).reading c = m.reading c := by
  rw [reading_recordAll, Effect.countOf_eq_zero_iff.mpr, Nat.add_zero]
  intro hmem
  have hof := h _ hmem
  cases c with
  | withoutBilling => exact hc rfl
  | aggregated | shared | skipped | reports => exact hof

omit [Number α] in
theorem buckets_recordAll_of_ofEstimation (m : Metrics α) (h : ∀ e ∈ es, e.OfEstimation) :
    (m.recordAll es).buckets = m.buckets := by
  refine m.buckets_recordAll_of_not_set ?_
  rintro e he ⟨n, rfl⟩
  exact h _ he

end Metrics

/-! ## The estimation -/

section Estimation

variable (inventory : Inventory α) (source : BillingSource) (customPricing : Option CustomPricing)
  (discount : α) (window : String) (offset : Option String)

/-- An estimation has asked the billing source or has not, and has told of some clusters. -/
theorem exists_journal_eq :
    ∃ (asked : List (Effect α)) (clusters : List String) (billing : Billing) (length : Window),
      (idleCoefficients inventory source customPricing discount window offset).run.journal =
        asked ++ clusters.flatMap
          (account inventory billing { cadence := .cumulative, discount, customPricing } length) ∧
      asked ⊆ [.billingQuery window offset] := by
  rw [run_idleCoefficients]
  cases Window.read window with
  | error e => exact ⟨[], [], ∅, ⟨0⟩, rfl, by simp⟩
  | ok length =>
    cases source window offset with
    | error reasons => exact ⟨[.billingQuery window offset], [], ∅, ⟨0⟩, rfl, by simp⟩
    | ok billing =>
      let terms : Terms α := { cadence := .cumulative, discount, customPricing }
      dsimp only
      cases hvalue : ((Inventory.clusters inventory).foldlM
          (visit inventory billing terms length) ∅).run.value with
      | ok found =>
        have hvisited := visitedAll_of_run (congrArg (fun v => Journaled.mk v _) hvalue)
        exact ⟨[.billingQuery window offset], inventory.clusters, billing, length,
          congrArg (List.cons _) hvisited.journal, by simp⟩
      | error e =>
        obtain ⟨pre, c, post, hclusters, hpre, hc⟩ := exists_failing_of_visits hvalue
        have hrun := run_visits_of_failing post ∅ hpre hc
        rw [← hclusters] at hrun
        exact ⟨[.billingQuery window offset], pre, billing, length,
          congrArg (fun r => List.cons _ (Journaled.journal r)) hrun, by simp⟩

/-- **Whether or not it fails, an estimation** moves no counter of workloads or reports, and not the
gauge of the number of buckets. -/
theorem ofEstimation_of_mem_journal {e : Effect α}
    (he : e ∈ (idleCoefficients inventory source customPricing discount window offset).run.journal) :
    e.OfEstimation := by
  obtain ⟨asked, clusters, billing, length, hjournal, hasked⟩ :=
    exists_journal_eq inventory source customPricing discount window offset
  rw [hjournal] at he
  rcases List.mem_append.mp he with he | he
  · obtain rfl := List.mem_singleton.mp (hasked he)
    trivial
  · obtain ⟨c, -, he⟩ := List.mem_flatMap.mp he
    exact ofEstimation_of_mem_account he

variable {inventory source customPricing discount window offset}

/-- What the outcome of a cluster, if there is one, reports. -/
def conclusion (inventory : Inventory α) (billing : Billing) (terms : Terms α) (window : Window)
    (cluster : String) : List (Effect α) :=
  match (outcome inventory billing terms window cluster).run.value with
  | .ok o => o.effects cluster
  | .error _ => []

/-- An estimation that ends well has asked the billing source and told of all clusters. -/
theorem told_of_idleCoefficients {found : Index α}
    (h : (idleCoefficients inventory source customPricing discount window offset).run.value =
      .ok found) :
    (∀ c, c ∈ found.names ↔ ∃ w ∈ inventory.values, w.cluster = c) ∧
      ∃ journal,
        (idleCoefficients inventory source customPricing discount window offset).run.journal =
          .billingQuery window offset :: journal ∧ Told found journal := by
  obtain ⟨length, billing, journal, -, -, hjournal, hvisited⟩ := visitedAll_of_idleCoefficients h
  obtain ⟨_, _, -, -, hestimates⟩ := estimates_of_idleCoefficients h
  have hmem : ∀ c, c ∈ found.names ↔ ∃ w ∈ inventory.values, w.cluster = c := by
    intro c
    rw [hestimates.names, Inventory.own_ne_nil_iff]
  have hnames : found.names = inventory.clusters :=
    List.Pairwise.eq_of_mem_iff found.pairwise_names inventory.pairwise_clusters fun {c} => by
      rw [hmem, Inventory.mem_clusters, List.mem_map]
  let terms : Terms α := { cadence := .cumulative, discount, customPricing }
  let run := fun c => (outcome inventory billing terms length c).run
  have houtcome : ∀ c ∈ found.names, ∃ o, (run c).value = .ok o ∧
      found.get? c = some o.coefficient := hnames ▸ hvisited.outcomes
  refine ⟨hmem, journal, hjournal, fun c => (run c).journal,
    conclusion inventory billing terms length, ?_, fun c hc => ?_⟩
  · rw [hvisited.journal, hnames]
    rfl
  · obtain ⟨o, ho, hget⟩ := houtcome c hc
    have hconclusion : conclusion inventory billing terms length c = o.effects c := by
      rw [conclusion, show (outcome inventory billing terms length c).run.value = .ok o from ho]
    exact ⟨complains_outcome, o.coefficient, hget, hconclusion ▸ o.concludes c⟩

theorem measured_of_told {found : Index α} {journal : List (Effect α)} (h : Told found journal)
    (hof : ∀ e ∈ journal, e.OfEstimation) (m : Metrics α) :
    Measured found journal m (m.recordAll journal) where
  withoutBilling := by
    have hreading := m.reading_recordAll journal .withoutBilling
    rw [h.countOf_withoutBilling] at hreading
    exact hreading
  set c value hinforms := by
    have hmem := h.coefficient_mem_iff.mpr hinforms
    have hget := h.get?_of_coefficient_mem hmem
    refine ⟨hget, m.get?_coefficients_recordAll_of_set hmem fun x hx => ?_⟩
    exact Option.some.inj ((h.get?_of_coefficient_mem hx).symm.trans hget)
  untouched c hnone := by
    refine m.get?_coefficients_recordAll_of_not_set ?_
    rintro e he ⟨value, rfl⟩
    obtain ⟨e, he, hinforms⟩ := h.coefficient_mem_iff.mp he
    exact hnone ⟨e, value, he, hinforms⟩
  counters c hc := m.reading_recordAll_of_ofEstimation hof hc
  buckets := m.buckets_recordAll_of_ofEstimation hof

/-- An estimation that fails over a bill has done what the estimation of the lesser clusters does. -/
theorem run_below_of_billing_error {cluster : String} {item : BillItem} {amount : String}
    {defect : Numeral.Defect}
    (h : (idleCoefficients inventory source customPricing discount window offset).run.value =
      .error (.invalidBillingTotal cluster item amount defect)) :
    ∃ found, (idleCoefficients (inventory.below cluster) source customPricing discount window
      offset).run = ⟨.ok found,
        (idleCoefficients inventory source customPricing discount window offset).run.journal⟩ := by
  rw [run_idleCoefficients] at h
  rw [run_idleCoefficients, run_idleCoefficients]
  cases hlength : Window.read window with
  | error e =>
    -- a window that cannot be read is another fault
    rw [hlength] at h
    rw [Window.read] at hlength
    split at hlength
    · cases hlength
    · cases hlength
      cases h
  | ok length =>
    rw [hlength] at h
    cases hbilling : source window offset with
    | error reasons =>
      rw [hbilling] at h
      cases h
    | ok billing =>
      rw [hbilling] at h
      obtain ⟨found, hfound⟩ := run_visits_below h
      exact ⟨found, by dsimp only; rw [hfound]⟩

end Estimation

/-- **What an estimation does to its surroundings, also when it fails midway.** One that ends well
tells of each cluster of the workloads, in ascending order, one conclusion: either it informs of the
coefficient and sets the gauge to it, or it warns, counts the cluster and leaves its gauge as it is,
and then the coefficient is one. One that fails over the bill of a cluster has done exactly what the
estimation of the workloads of the lesser clusters does, which ends well, and has told of no other
cluster. -/
theorem idleCoefficients_effects (inventory : Inventory α) (source : BillingSource)
    (customPricing : Option CustomPricing) (discount : α) (window : String)
    (offset : Option String) :
    let r := (idleCoefficients inventory source customPricing discount window offset).run
    (∀ found, r.value = .ok found →
      found.names.Pairwise (· < ·) ∧
      (∀ c, c ∈ found.names ↔ ∃ w ∈ inventory.values, w.cluster = c) ∧
      ∃ journal, r.journal = .billingQuery window offset :: journal ∧ Told found journal ∧
        ∀ m : Metrics α, Measured found journal m (m.recordAll r.journal)) ∧
    ∀ cluster item amount defect, r.value = .error (.invalidBillingTotal cluster item amount defect) →
      (∃ found, (idleCoefficients (inventory.below cluster) source customPricing discount window
        offset).run = ⟨.ok found, r.journal⟩) ∧
      ∀ e ∈ r.journal, ∀ c, e.estimated? = some c → c < cluster := by
  intro r
  refine ⟨fun found hfound => ?_, fun cluster item amount defect herror => ?_⟩
  · obtain ⟨hnames, journal, hjournal, htold⟩ := told_of_idleCoefficients hfound
    refine ⟨found.pairwise_names, hnames, journal, hjournal, htold, fun m => ?_⟩
    have hof : ∀ e ∈ journal, e.OfEstimation := by
      intro e he
      have hmem : e ∈ r.journal := hjournal ▸ List.mem_cons_of_mem _ he
      exact ofEstimation_of_mem_journal _ _ _ _ _ _ hmem
    rw [hjournal, Metrics.recordAll_cons]
    exact measured_of_told htold hof m
  · obtain ⟨found, hbelow⟩ := run_below_of_billing_error herror
    refine ⟨⟨found, hbelow⟩, fun e he c hc => ?_⟩
    have hfound := congrArg Journaled.value hbelow
    obtain ⟨hnames, journal, hjournal, htold⟩ := told_of_idleCoefficients hfound
    rw [hbelow] at hjournal
    dsimp only at hjournal
    rw [hjournal] at he
    rcases List.mem_cons.mp he with rfl | he
    · cases hc
    · obtain ⟨w, hw, rfl⟩ := (hnames c).mp (htold.mem_names_of_estimated? he hc)
      rw [Inventory.values_below] at hw
      exact of_decide_eq_true (List.mem_filter.mp hw).2

/-- The sample bill beside one of the other cluster that cannot be read. -/
def unreadableBilling : Billing :=
  Assoc.ofList [("west", { sampleBill with cpu := [⟨"1570000000", "n/a"⟩] }), ("east", sampleBill)]

/-- The estimation of a day of the sample by these bills. -/
def unreadableEstimation : EstimateM ℚ (Index ℚ) :=
  idleCoefficients Report.sampleInventory (fun _ _ => .ok unreadableBilling) none (1 / 10) "24h"
    none

/-- The sample fails over the bill of its second cluster, and has told of the first. -/
theorem idleCoefficients_effects_unreadable :
    ∃ item amount defect found,
      unreadableEstimation.run.value = .error (.invalidBillingTotal "west" item amount defect) ∧
      (idleCoefficients (Report.sampleInventory.below "west") (fun _ _ => .ok unreadableBilling) none
        (1 / 10) "24h" none).run = ⟨.ok found, unreadableEstimation.run.journal⟩ ∧
      .coefficient "east" (found.values.headD 0) ∈ unreadableEstimation.run.journal := by
  have hfails : (match unreadableEstimation.run.value with
      | .error (.invalidBillingTotal c ..) => c == "west"
      | _ => false) = true := by decide +kernel
  have hvalue : ∃ item amount defect, unreadableEstimation.run.value =
      .error (.invalidBillingTotal "west" item amount defect) := by
    split at hfails
    · next c item amount defect heq =>
      obtain rfl := beq_iff_eq.mp hfails
      exact ⟨item, amount, defect, heq⟩
    · cases hfails
  obtain ⟨item, amount, defect, herror⟩ := hvalue
  have heffects := (idleCoefficients_effects Report.sampleInventory
    (fun _ _ => .ok unreadableBilling) none (1 / 10) "24h" none).2
  obtain ⟨⟨found, hfound⟩, -⟩ := heffects "west" item amount defect herror
  have hset : (match (idleCoefficients (Report.sampleInventory.below "west")
      (fun _ _ => .ok unreadableBilling) none (1 / 10 : ℚ) "24h" none).run with
      | ⟨.ok f, es⟩ => es.any fun
        | .coefficient c x => c == "east" && x == f.values.headD 0
        | _ => false
      | _ => false) = true := by decide +kernel
  rw [hfound] at hset
  obtain ⟨e, hmem, he⟩ := List.any_eq_true.mp hset
  refine ⟨item, amount, defect, found, herror, hfound, ?_⟩
  cases e with
  | coefficient c x =>
    obtain ⟨hc, hx⟩ := Bool.and_eq_true_iff.mp he
    rwa [beq_iff_eq.mp hc, beq_iff_eq.mp hx] at hmem
  | event | count | buckets | billingQuery => cases he

end Chargeback

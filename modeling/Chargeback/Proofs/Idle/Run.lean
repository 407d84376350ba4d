import Chargeback.Idle.Estimate
import Chargeback.Proofs.Checks
import Chargeback.Proofs.Pricing.Events

/-!
# Runs of an idle estimation

A run of an estimation has a result and a journal. The run of a sequence is told by the run of its
first part (`EstimateM.run_bind`), and so are the runs of the parts of an estimation: what is found
out about one cluster (`run_outcome`), and the visit to it (`run_visit`). Visits to a list of
clusters that end well have found out about each of them on its own, and have reported about one
after another (`VisitedAll`).
-/

namespace Chargeback

variable {α : Type}

namespace EstimateM

variable {β γ : Type}

theorem run_bind (x : EstimateM α β) (f : β → EstimateM α γ) :
    (x >>= f).run =
      match x.run.value with
      | .ok b => ⟨(f b).run.value, x.run.journal ++ (f b).run.journal⟩
      | .error e => ⟨.error e, x.run.journal⟩ := by
  rw [ExceptT.run_bind]
  change Journaled.mk _ _ = _
  cases x.run.value with
  | ok b => rfl
  | error e => exact congrArg (Journaled.mk _) (List.append_nil _)

/-- A sequence ends well if both of its parts do. -/
theorem run_bind_eq_ok {x : EstimateM α β} {f : β → EstimateM α γ} {c : γ} {es : List (Effect α)}
    (h : (x >>= f).run = ⟨.ok c, es⟩) :
    ∃ b es₁ es₂, x.run = ⟨.ok b, es₁⟩ ∧ (f b).run = ⟨.ok c, es₂⟩ ∧ es = es₁ ++ es₂ := by
  rw [run_bind] at h
  rcases hx : x.run with ⟨_ | b, es₁⟩
  · simp [hx] at h
  · simp only [hx, Journaled.mk.injEq] at h
    obtain ⟨hvalue, rfl⟩ := h
    exact ⟨b, es₁, (f b).run.journal, rfl, by rw [← hvalue], rfl⟩

@[simp] theorem run_pure (b : β) : (pure b : EstimateM α β).run = ⟨.ok b, []⟩ := rfl

@[simp] theorem run_liftM (x : Journaled (Effect α) β) :
    (liftM x : EstimateM α β).run = ⟨.ok x.value, x.journal⟩ :=
  congrArg (Journaled.mk _) (List.append_nil _)

@[simp] theorem run_report (es : List (Effect α)) : (report es).run = ⟨.ok (), es⟩ :=
  run_liftM (Journaled.tellAll es)

@[simp] theorem run_liftM_except (x : Except Fault β) :
    (liftM x : EstimateM α β).run = ⟨x, []⟩ := rfl

/-- A billing source that is asked leaves one entry in the journal, whatever it answers. -/
theorem run_ask (source : BillingSource) (window : String) (offset : Option String) :
    (source.ask window offset : EstimateM α Billing).run =
      ⟨(source window offset).mapError Fault.billingQuery, [.billingQuery window offset]⟩ := by
  unfold BillingSource.ask
  rw [run_bind, run_report]
  dsimp only
  rw [run_liftM_except]
  rfl

end EstimateM

/-! ## One cluster -/

section Cluster

variable [Number α] {inventory : Inventory α} {billing : Billing} {terms : Terms α}
  {window : Window} {cluster : String}

/-- A bill is made of three totals that can be read. -/
theorem monthlyBill_eq_ok {totals : ClusterTotals} {discount bill : α}
    (h : monthlyBill cluster totals discount = .ok bill) :
    ∃ cpu memory storage, readTotal cluster .cpu totals.cpu = .ok cpu ∧
      readTotal cluster .memory totals.memory = .ok memory ∧
      readTotal cluster .storage totals.storage = .ok storage ∧
      bill = cpu * (1 - discount) + memory * (1 - discount) + storage := by
  unfold monthlyBill at h
  obtain ⟨cpu, hcpu, h⟩ := bind_eq_ok_iff.mp h
  obtain ⟨memory, hmemory, h⟩ := bind_eq_ok_iff.mp h
  obtain ⟨storage, hstorage, h⟩ := bind_eq_ok_iff.mp h
  exact ⟨cpu, memory, storage, hcpu, hmemory, hstorage, (Except.ok.inj h).symm⟩

theorem value_observedCost :
    (observedCost inventory terms cluster).value =
      Number.sum ((inventory.values.filter fun w => w.cluster == cluster).map fun w =>
        (w.price terms 1).value.resourceTotal) := by
  simp [observedCost]

/-- Observing a cluster reports no more than pricing does. -/
theorem complains_observedCost : (observedCost inventory terms cluster).Complains := by
  refine Journaled.Complains.bind (fun e he => ?_) (.of_pure _)
  rw [Journaled.journal_mapM] at he
  obtain ⟨w, -, he⟩ := List.mem_flatMap.mp he
  rw [Journaled.journal_map] at he
  exact w.complains_price terms 1 e he

/-- **What is found out about a cluster.** -/
theorem run_outcome :
    (outcome inventory billing terms window cluster).run =
      match (billing.get? cluster).filter ClusterTotals.hasData with
      | none => ⟨.ok (.unbilled .noSamples), []⟩
      | some totals =>
        match monthlyBill cluster totals terms.discount with
        | .error e => ⟨.error e, []⟩
        | .ok bill =>
          let billed := proRated bill window
          let observed := observedCost inventory terms cluster
          if !Number.isUsable billed then ⟨.ok (.unbilled .zeroCost), []⟩
          else if !Number.isUsable observed.value then
            ⟨.ok (.unobserved billed), observed.journal⟩
          else ⟨.ok (.estimated observed.value billed), observed.journal⟩ := by
  unfold outcome
  cases (billing.get? cluster).filter ClusterTotals.hasData with
  | none => rfl
  | some totals =>
    dsimp only
    rw [EstimateM.run_bind, EstimateM.run_liftM_except]
    cases monthlyBill cluster totals terms.discount with
    | error e => rfl
    | ok bill =>
      dsimp only
      split
      · rfl
      · rw [EstimateM.run_bind, EstimateM.run_liftM]
        dsimp only
        split <;> simp

/-- Only prices are complained about before a cluster has its outcome. -/
theorem complains_outcome : (outcome inventory billing terms window cluster).run.Complains := by
  rw [run_outcome]
  split
  · exact .of_pure _
  · split
    · exact .of_pure _
    · dsimp only
      split
      · exact .of_pure _
      · split <;> exact complains_observedCost

/-- A cluster with an estimate has a bill, and both the bill and the observed cost can be divided
by. -/
theorem eq_of_estimated {observed billed : α}
    (h : (outcome inventory billing terms window cluster).run.value =
      .ok (.estimated observed billed)) :
    ∃ totals bill, billing.get? cluster = some totals ∧
      monthlyBill cluster totals terms.discount = .ok bill ∧ billed = proRated bill window ∧
      observed = (observedCost inventory terms cluster).value ∧
      Number.isUsable billed = true ∧ Number.isUsable observed = true := by
  rw [run_outcome] at h
  split at h
  · simp at h
  · next totals htotals =>
    split at h
    · simp at h
    · next bill hbill =>
      dsimp only at h
      split at h
      · simp at h
      · next hbilled =>
        split at h
        · simp at h
        · next hobserved =>
          rw [Except.ok.injEq, Outcome.estimated.injEq] at h
          obtain ⟨rfl, rfl⟩ := h
          exact ⟨totals, bill, (Option.filter_eq_some_iff.mp htotals).1, hbill, rfl, rfl,
            by simpa using hbilled, by simpa using hobserved⟩

/-- **A visit** finds out about its cluster, whatever has been found before. -/
theorem run_visit (found : Index α) :
    (visit inventory billing terms window found cluster).run =
      let r := (outcome inventory billing terms window cluster).run
      match r.value with
      | .ok o => ⟨.ok (found.insert cluster o.coefficient), r.journal ++ o.effects cluster⟩
      | .error e => ⟨.error e, r.journal⟩ := by
  unfold visit
  rw [EstimateM.run_bind]
  dsimp only
  cases (outcome inventory billing terms window cluster).run.value with
  | error e => rfl
  | ok o =>
    dsimp only
    rw [EstimateM.run_bind, EstimateM.run_report]
    simp

/-! ## All clusters -/

/-- What is reported about a cluster, on the way to its outcome and of it. -/
def account (inventory : Inventory α) (billing : Billing) (terms : Terms α) (window : Window)
    (cluster : String) : List (Effect α) :=
  let r := (outcome inventory billing terms window cluster).run
  r.journal ++ match r.value with
    | .ok o => o.effects cluster
    | .error _ => []

/-- What is reported about a cluster are complaints about prices, and the effects of its outcome. -/
theorem complaint_or_effect_of_mem_account {e : Effect α}
    (h : e ∈ account inventory billing terms window cluster) :
    (∃ price defect, e = .event (.malformedPrice price defect)) ∨
      ∃ o, (outcome inventory billing terms window cluster).run.value = .ok o ∧
        e ∈ o.effects cluster := by
  simp only [account, List.mem_append] at h
  rcases h with h | h
  · exact .inl (complains_outcome e h)
  · split at h
    · next o ho => exact .inr ⟨o, ho, h⟩
    · cases h

/-- The gauge of a cluster is set when the cluster has an estimate, and only then. -/
theorem estimated_of_mem_account {c : String} {value : α}
    (h : .coefficient c value ∈ account inventory billing terms window cluster) :
    c = cluster ∧ ∃ observed billed,
      (outcome inventory billing terms window cluster).run.value =
        .ok (.estimated observed billed) ∧ value = observed / billed := by
  rcases complaint_or_effect_of_mem_account h with ⟨price, defect, h⟩ | ⟨o, ho, h⟩
  · cases h
  · cases o with
    | unbilled gap => simp [Outcome.effects] at h
    | unobserved billed => simp [Outcome.effects] at h
    | estimated observed billed =>
      obtain ⟨rfl, rfl⟩ : c = cluster ∧ value = observed / billed := by
        simpa [Outcome.effects, Outcome.coefficient] using h
      exact ⟨rfl, observed, billed, ho, rfl⟩

/-- Visits to some clusters have ended well. -/
structure VisitedAll (inventory : Inventory α) (billing : Billing) (terms : Terms α)
    (window : Window) (clusters : List String) (before after : Index α)
    (journal : List (Effect α)) : Prop where
  /-- Each of the clusters has an outcome of its own, and the coefficient of it. -/
  outcomes : ∀ c ∈ clusters, ∃ o, (outcome inventory billing terms window c).run.value = .ok o ∧
    after.get? c = some o.coefficient
  /-- No other cluster has got a coefficient. -/
  others : ∀ c, c ∉ clusters → after.get? c = before.get? c
  /-- The clusters have been reported about one after another. -/
  journal : journal = clusters.flatMap (account inventory billing terms window)

theorem visitedAll_of_run {clusters : List String} {before after : Index α}
    {journal : List (Effect α)}
    (h : (clusters.foldlM (visit inventory billing terms window) before).run =
      ⟨.ok after, journal⟩) :
    VisitedAll inventory billing terms window clusters before after journal := by
  induction clusters generalizing before journal with
  | nil =>
    rw [List.foldlM_nil, EstimateM.run_pure, Journaled.mk.injEq, Except.ok.injEq] at h
    obtain ⟨rfl, rfl⟩ := h
    exact ⟨by simp, by simp, rfl⟩
  | cons c clusters ih =>
    rw [List.foldlM_cons] at h
    obtain ⟨found, es₁, es₂, hvisit, hrest, rfl⟩ := EstimateM.run_bind_eq_ok h
    have hvisited := ih hrest
    rw [run_visit] at hvisit
    dsimp only at hvisit
    cases ho : (outcome inventory billing terms window c).run.value with
    | error e => simp [ho] at hvisit
    | ok o =>
      simp only [ho, Journaled.mk.injEq, Except.ok.injEq] at hvisit
      obtain ⟨rfl, rfl⟩ := hvisit
      refine ⟨fun d hd => ?_, fun d hd => ?_, ?_⟩
      · by_cases hmem : d ∈ clusters
        · exact hvisited.outcomes d hmem
        · obtain rfl : d = c := (List.mem_cons.mp hd).resolve_right hmem
          exact ⟨o, ho, by rw [hvisited.others d hmem, Index.get?_insert, if_pos rfl]⟩
      · obtain ⟨hne, hmem⟩ := not_or.mp (mt List.mem_cons.mpr hd)
        rw [hvisited.others d hmem, Index.get?_insert, if_neg hne]
      · rw [hvisited.journal, List.flatMap_cons]
        simp only [account, ho]

end Cluster

/-! ## The estimation -/

variable [Number α]

/-- **A run of an estimation**: first the window is read, then the billing source is asked, and then
all clusters are visited. -/
theorem run_idleCoefficients (inventory : Inventory α) (source : BillingSource)
    (customPricing : Option CustomPricing) (discount : α) (window : String)
    (offset : Option String) :
    (idleCoefficients inventory source customPricing discount window offset).run =
      match Window.read window with
      | .error e => ⟨.error e, []⟩
      | .ok length =>
        match source window offset with
        | .error reasons => ⟨.error (.billingQuery reasons), [.billingQuery window offset]⟩
        | .ok billing =>
          let terms : Terms α := { cadence := .cumulative, discount, customPricing }
          let r := ((Inventory.clusters inventory).foldlM
            (visit inventory billing terms length) ∅).run
          ⟨r.value, .billingQuery window offset :: r.journal⟩ := by
  unfold idleCoefficients
  rw [EstimateM.run_bind, EstimateM.run_liftM_except]
  cases Window.read window with
  | error e => rfl
  | ok length =>
    dsimp only
    rw [EstimateM.run_bind, EstimateM.run_ask]
    cases source window offset with
    | error reasons => rfl
    | ok billing => rfl

/-- An estimation that ends well has visited all clusters. -/
theorem visitedAll_of_idleCoefficients {inventory : Inventory α} {source : BillingSource}
    {customPricing : Option CustomPricing} {discount : α} {window : String}
    {offset : Option String} {found : Index α}
    (h : (idleCoefficients inventory source customPricing discount window offset).run.value =
      .ok found) :
    ∃ length billing journal, Window.read window = .ok length ∧ source window offset = .ok billing ∧
      (idleCoefficients inventory source customPricing discount window offset).run.journal =
        .billingQuery window offset :: journal ∧
      VisitedAll inventory billing { cadence := .cumulative, discount, customPricing } length
        (Inventory.clusters inventory) ∅ found journal := by
  rw [run_idleCoefficients] at h ⊢
  cases hlength : Window.read window with
  | error e => simp [hlength] at h
  | ok length =>
    cases hbilling : source window offset with
    | error reasons => simp [hlength, hbilling] at h
    | ok billing =>
      simp only [hlength, hbilling] at h ⊢
      exact ⟨length, billing, _, rfl, rfl, rfl,
        visitedAll_of_run (congrArg (fun v => Journaled.mk v _) h)⟩

end Chargeback

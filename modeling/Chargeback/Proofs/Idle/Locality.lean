import Mathlib.Data.List.Sort
import Chargeback.Proofs.Idle.Closure
import Chargeback.Proofs.Idle.Faults

/-!
# The coefficient of a cluster is its own

An estimation goes through all clusters with one map of coefficients at hand, and every visit goes
through the whole inventory. Yet what it finds out about a cluster only depends on the bill and on
the workloads of that cluster: it is the coefficient that these two determine (`IsCoefficient`,
`isCoefficient_of_outcome`). An estimation that ends well has found exactly one for each cluster of
the inventory (`idleCoefficients_local`), so two of them agree on a cluster as soon as they agree on
its bill and its workloads, whatever else they have been given.
-/

namespace Chargeback

variable {α : Type} [Number α]

/-- The workloads of a cluster, in the order of the inventory. -/
def Inventory.own {α : Type} (inventory : Inventory α) (cluster : String) : List (Workload α) :=
  inventory.values.filter fun w => w.cluster == cluster

/-- What workloads have cost, from the first to the last, without idle correction. -/
def observedOn (own : List (Workload α)) (terms : Terms α) : α :=
  Number.sum (own.map fun w => (w.price terms 1).value.resourceTotal)

/-- What is billed over a window at the leading amounts of a monthly bill. Storage is never
discounted. -/
def ClusterTotals.Bills (totals : ClusterTotals) (discount : α) (window : Window) (billed : α) :
    Prop :=
  ∃ cpu memory storage, Numeral.read (totals.leading .cpu) = .ok cpu ∧
    Numeral.read (totals.leading .memory) = .ok memory ∧
    Numeral.read (totals.leading .storage) = .ok storage ∧
    billed = (Number.ofNumeral cpu * (1 - discount) + Number.ofNumeral memory * (1 - discount) +
      Number.ofNumeral storage) / hoursPerMonth * window.hours

/-- The coefficient that a bill and the workloads of a cluster determine: one, without a sample of
every item of the bill, or where the billed or the observed cost is not positive and finite; else
the observed cost over the billed one. -/
def IsCoefficient (bill : Option ClusterTotals) (own : List (Workload α)) (terms : Terms α)
    (window : Window) (value : α) : Prop :=
  match bill.filter ClusterTotals.hasData with
  | none => value = 1
  | some totals => ∃ billed, totals.Bills terms.discount window billed ∧
    value = if Number.isUsable billed && Number.isUsable (observedOn own terms) then
      observedOn own terms / billed else 1

theorem ClusterTotals.Bills.unique {totals : ClusterTotals} {discount billed billed' : α}
    {window : Window} (h : totals.Bills discount window billed)
    (h' : totals.Bills discount window billed') : billed = billed' := by
  obtain ⟨cpu, memory, storage, hcpu, hmemory, hstorage, rfl⟩ := h
  obtain ⟨cpu', memory', storage', hcpu', hmemory', hstorage', rfl⟩ := h'
  obtain rfl := Except.ok.inj (hcpu.symm.trans hcpu')
  obtain rfl := Except.ok.inj (hmemory.symm.trans hmemory')
  obtain rfl := Except.ok.inj (hstorage.symm.trans hstorage')
  rfl

/-- A bill and workloads determine one coefficient. -/
theorem IsCoefficient.unique {bill : Option ClusterTotals} {own : List (Workload α)}
    {terms : Terms α} {window : Window} {value value' : α}
    (h : IsCoefficient bill own terms window value)
    (h' : IsCoefficient bill own terms window value') : value = value' := by
  unfold IsCoefficient at h h'
  cases htotals : bill.filter ClusterTotals.hasData with
  | none =>
    rw [htotals] at h h'
    exact h.trans h'.symm
  | some totals =>
    rw [htotals] at h h'
    obtain ⟨billed, hbilled, rfl⟩ := h
    obtain ⟨billed', hbilled', rfl⟩ := h'
    rw [hbilled.unique hbilled']

/-- The prices of a cluster's workloads count through their observed cost only. -/
theorem IsCoefficient.congr {bill : Option ClusterTotals} {own own' : List (Workload α)}
    {terms terms' : Terms α} {window : Window} {value : α}
    (h : IsCoefficient bill own terms window value) (hdiscount : terms'.discount = terms.discount)
    (hobserved : observedOn own' terms' = observedOn own terms) :
    IsCoefficient bill own' terms' window value := by
  unfold IsCoefficient at h ⊢
  rwa [hdiscount, hobserved]

section Cluster

variable {inventory : Inventory α} {billing : Billing} {terms : Terms α} {window : Window}
  {cluster : String}

theorem bills_of_monthlyBill {totals : ClusterTotals} {discount bill : α}
    (h : monthlyBill cluster totals discount = .ok bill) :
    totals.Bills discount window (proRated bill window) := by
  obtain ⟨_, _, _, hcpu, hmemory, hstorage, rfl⟩ := monthlyBill_eq_ok h
  obtain ⟨cpu, hreadCpu, rfl⟩ := readTotal_eq_ok .cpu hcpu
  obtain ⟨memory, hreadMemory, rfl⟩ := readTotal_eq_ok .memory hmemory
  obtain ⟨storage, hreadStorage, rfl⟩ := readTotal_eq_ok .storage hstorage
  exact ⟨cpu, memory, storage, hreadCpu, hreadMemory, hreadStorage, rfl⟩

/-- **What is found out about a cluster** is determined by its bill and its workloads. -/
theorem isCoefficient_of_outcome {o : Outcome α}
    (h : (outcome inventory billing terms window cluster).run.value = .ok o) :
    IsCoefficient (billing.get? cluster) (inventory.own cluster) terms window o.coefficient := by
  rw [run_outcome] at h
  unfold IsCoefficient
  cases htotals : (billing.get? cluster).filter ClusterTotals.hasData with
  | none =>
    rw [htotals] at h
    cases h
    rfl
  | some totals =>
    rw [htotals] at h
    cases hbill : monthlyBill cluster totals terms.discount with
    | error e => simp [hbill] at h
    | ok bill =>
      refine ⟨proRated bill window, bills_of_monthlyBill hbill, ?_⟩
      have hobserved : (observedCost inventory terms cluster).value =
        observedOn (inventory.own cluster) terms := value_observedCost
      simp only [hbill, hobserved] at h
      cases hbilled : Number.isUsable (proRated bill window) with
      | false =>
        simp only [hbilled] at h
        cases h
        rfl
      | true =>
        cases hcost : Number.isUsable (observedOn (inventory.own cluster) terms) with
        | false =>
          simp only [hbilled, hcost] at h
          cases h
          rfl
        | true =>
          simp only [hbilled, hcost] at h
          cases h
          rfl

end Cluster

/-! ## The estimation -/

theorem Inventory.own_ne_nil_iff {α : Type} {inventory : Inventory α} {cluster : String} :
    inventory.own cluster ≠ [] ↔ ∃ w ∈ inventory.values, w.cluster = cluster := by
  simp [own, List.filter_eq_nil_iff]

/-- Each cluster with workloads has a coefficient, and no other; and it is the one that the bill and
the workloads of the cluster determine. -/
structure Estimates (inventory : Inventory α) (billing : Billing) (terms : Terms α)
    (window : Window) (found : Index α) : Prop where
  names : ∀ c, c ∈ found.names ↔ inventory.own c ≠ []
  coefficient : ∀ c value, found.get? c = some value →
    IsCoefficient (billing.get? c) (inventory.own c) terms window value

/-- Coefficients agree on a cluster with the same bill and the same observed cost. -/
theorem Estimates.get?_of_observed {inventory inventory' : Inventory α}
    {billing billing' : Billing} {terms terms' : Terms α} {window : Window}
    {found found' : Index α} {cluster : String}
    (h : Estimates inventory billing terms window found)
    (h' : Estimates inventory' billing' terms' window found')
    (hbill : billing'.get? cluster = billing.get? cluster)
    (hdiscount : terms'.discount = terms.discount)
    (hown : inventory'.own cluster ≠ [] ↔ inventory.own cluster ≠ [])
    (hobserved : observedOn (inventory'.own cluster) terms' =
      observedOn (inventory.own cluster) terms) :
    found'.get? cluster = found.get? cluster := by
  have hnames : cluster ∈ found'.names ↔ cluster ∈ found.names := by
    rw [h.names, h'.names, hown]
  by_cases hmem : cluster ∈ found.names
  · obtain ⟨value, hvalue⟩ := Index.mem_names_iff.mp hmem
    obtain ⟨value', hvalue'⟩ := Index.mem_names_iff.mp (hnames.mpr hmem)
    have hcoefficient := (h.coefficient cluster value hvalue).congr hdiscount hobserved
    have hcoefficient' := h'.coefficient cluster value' hvalue'
    rw [hbill] at hcoefficient'
    rw [hvalue, hvalue', hcoefficient'.unique hcoefficient]
  · rw [Index.get?_eq_none_iff.mpr hmem, Index.get?_eq_none_iff.mpr (mt hnames.mp hmem)]

/-- Coefficients agree on a cluster with the same bill and the same workloads. -/
theorem Estimates.get?_congr {inventory inventory' : Inventory α} {billing billing' : Billing}
    {terms : Terms α} {window : Window} {found found' : Index α} {cluster : String}
    (h : Estimates inventory billing terms window found)
    (h' : Estimates inventory' billing' terms window found')
    (hbill : billing'.get? cluster = billing.get? cluster)
    (hown : inventory'.own cluster = inventory.own cluster) :
    found'.get? cluster = found.get? cluster :=
  h.get?_of_observed h' hbill rfl (by rw [hown]) (by rw [hown])

/-- An estimation that ends well has found a coefficient for each cluster of the inventory. -/
theorem estimates_of_idleCoefficients {inventory : Inventory α} {source : BillingSource}
    {customPricing : Option CustomPricing} {discount : α} {window : String}
    {offset : Option String} {found : Index α}
    (h : (idleCoefficients inventory source customPricing discount window offset).run.value =
      .ok found) :
    ∃ length billing, Window.read window = .ok length ∧ source window offset = .ok billing ∧
      Estimates inventory billing { cadence := .cumulative, discount, customPricing } length
        found := by
  obtain ⟨length, billing, journal, hlength, hbilling, -, hvisited⟩ :=
    visitedAll_of_idleCoefficients h
  have hmem : ∀ c, c ∈ inventory.clusters ↔ inventory.own c ≠ [] := by
    intro c
    rw [Inventory.mem_clusters, Inventory.own_ne_nil_iff, List.mem_map]
  have hother : ∀ c, c ∉ inventory.clusters → found.get? c = none := hvisited.others
  refine ⟨length, billing, hlength, hbilling, fun c => ?_, fun c value hvalue => ?_⟩
  · rw [Index.mem_names_iff, ← hmem]
    constructor
    · rintro ⟨value, hvalue⟩
      by_contra hc
      simp [hother c hc] at hvalue
    · intro hc
      obtain ⟨o, -, hget⟩ := hvisited.outcomes c hc
      exact ⟨o.coefficient, hget⟩
  · by_cases hc : c ∈ inventory.clusters
    · obtain ⟨o, ho, hget⟩ := hvisited.outcomes c hc
      obtain rfl := Option.some.inj (hget.symm.trans hvalue)
      exact isCoefficient_of_outcome ho
    · simp [hother c hc] at hvalue

/-- The inventories have workloads of the same clusters. -/
def Inventory.SameClusters {α : Type} (inventory inventory' : Inventory α) : Prop :=
  ∀ c, c ∈ inventory'.values.map Workload.cluster ↔ c ∈ inventory.values.map Workload.cluster

section SameClusters

variable {inventory inventory' : Inventory α} {source : BillingSource}
  {customPricing customPricing' : Option CustomPricing} {discount discount' : α} {window : String}
  {offset : Option String} {found found' : Index α}

/-- **How an estimation fails** does not depend on the workloads, but for the clusters that they
name, and not on prices at all. -/
theorem value_eq_error_iff_of_clusters (hclusters : inventory.SameClusters inventory') (e : Fault) :
    (idleCoefficients inventory' source customPricing' discount' window offset).run.value =
        .error e ↔
      (idleCoefficients inventory source customPricing discount window offset).run.value =
        .error e := by
  cases hwindow : Window.read? window with
  | none =>
    rw [run_of_no_window inventory' customPricing' discount' hwindow,
      run_of_no_window inventory customPricing discount hwindow]
  | some length =>
    have hsome : (Window.read? window).isSome := by rw [hwindow]; rfl
    cases hsource : source window offset with
    | error reasons =>
      rw [run_of_no_bills inventory' customPricing' discount' hsome hsource,
        run_of_no_bills inventory customPricing discount hsome hsource]
    | ok billing =>
      rw [value_eq_error_iff_of_bills inventory' customPricing' discount' hsome hsource,
        value_eq_error_iff_of_bills inventory customPricing discount hsome hsource]
      simp only [Billing.FirstUnreadable.iff_of_agree hclusters fun _ _ => rfl]

/-- The clusters with a coefficient are those that the workloads name. -/
theorem names_of_clusters (hclusters : inventory.SameClusters inventory')
    (h : (idleCoefficients inventory source customPricing discount window offset).run.value =
      .ok found)
    (h' : (idleCoefficients inventory' source customPricing' discount' window offset).run.value =
      .ok found') : found'.names = found.names := by
  obtain ⟨_, _, -, -, hestimates⟩ := estimates_of_idleCoefficients h
  obtain ⟨_, _, -, -, hestimates'⟩ := estimates_of_idleCoefficients h'
  refine List.Pairwise.eq_of_mem_iff found'.pairwise_names found.pairwise_names fun c => ?_
  rw [hestimates.names, hestimates'.names, Inventory.own_ne_nil_iff, Inventory.own_ne_nil_iff]
  simpa only [List.mem_map] using hclusters c

/-- **The coefficient of a cluster** depends on its workloads through their observed cost. -/
theorem get?_of_observed (hclusters : inventory.SameClusters inventory')
    (h : (idleCoefficients inventory source customPricing discount window offset).run.value =
      .ok found)
    (h' : (idleCoefficients inventory' source customPricing' discount window offset).run.value =
      .ok found') {c : String}
    (hobserved : observedOn (inventory'.own c)
        { cadence := .cumulative, discount, customPricing := customPricing' } =
      observedOn (inventory.own c) { cadence := .cumulative, discount, customPricing }) :
    found'.get? c = found.get? c := by
  obtain ⟨length, billing, hlength, hbilling, hestimates⟩ := estimates_of_idleCoefficients h
  obtain ⟨length', billing', hlength', hbilling', hestimates'⟩ := estimates_of_idleCoefficients h'
  obtain rfl := Except.ok.inj (hlength.symm.trans hlength')
  obtain rfl := Except.ok.inj (hbilling.symm.trans hbilling')
  refine hestimates.get?_of_observed hestimates' rfl rfl ?_ hobserved
  rw [Inventory.own_ne_nil_iff, Inventory.own_ne_nil_iff]
  simpa only [List.mem_map] using hclusters c

end SameClusters

/-- **The coefficient of a cluster is its own.** An estimation that ends well has found a coefficient
for the clusters of the inventory, and for them only. That of a cluster is determined by its bill and
its workloads. So any other estimation of the same window, with the same price list and discount,
agrees on every cluster with the same bill and the same workloads. -/
theorem idleCoefficients_local (inventory : Inventory α) (source : BillingSource)
    (customPricing : Option CustomPricing) (discount : α) (window : String)
    (offset : Option String) (found : Index α)
    (hfound : (idleCoefficients inventory source customPricing discount window offset).run.value =
      .ok found) :
    ∃ length billing, Window.read window = .ok length ∧ source window offset = .ok billing ∧
      (∀ c, c ∈ found.names ↔ ∃ w ∈ inventory.values, w.cluster = c) ∧
      (∀ c ∈ found.names, ∃ value, found.get? c = some value ∧
        IsCoefficient (billing.get? c) (inventory.own c)
          { cadence := .cumulative, discount, customPricing } length value) ∧
      ∀ (inventory' : Inventory α) (source' : BillingSource) (offset' : Option String)
        (billing' : Billing) (found' : Index α),
        (idleCoefficients inventory' source' customPricing discount window offset').run.value =
          .ok found' →
        source' window offset' = .ok billing' →
        ∀ c, billing'.get? c = billing.get? c → inventory'.own c = inventory.own c →
          found'.get? c = found.get? c := by
  obtain ⟨length, billing, hlength, hbilling, hestimates⟩ := estimates_of_idleCoefficients hfound
  refine ⟨length, billing, hlength, hbilling, fun c => ?_, fun c hc => ?_, ?_⟩
  · rw [hestimates.names, Inventory.own_ne_nil_iff]
  · obtain ⟨value, hvalue⟩ := Index.mem_names_iff.mp hc
    exact ⟨value, hvalue, hestimates.coefficient c value hvalue⟩
  · intro inventory' source' offset' billing' found' hfound' hbilling' c hbill hown
    obtain ⟨length', billing'', hlength', hbilling'', hestimates'⟩ :=
      estimates_of_idleCoefficients hfound'
    obtain rfl := Except.ok.inj (hlength.symm.trans hlength')
    obtain rfl := Except.ok.inj (hbilling'.symm.trans hbilling'')
    exact hestimates.get?_congr hestimates' hbill hown

/-! ## A neighbour -/

theorem exists_eq_ok_of_isSome {ε β : Type} {x : Except ε β} (h : x.toOption.isSome = true) :
    ∃ b, x = .ok b := by
  cases x with
  | error e => cases h
  | ok b => exact ⟨b, rfl⟩

/-- A result that is there is told by its entries. -/
theorem exists_eq_ok_of_entries {ε β : Type} {x : Except ε (Index β)} {entries : List (String × β)}
    (h : x.toOption.map Index.entries = some entries) :
    ∃ found, x = .ok found ∧ found.entries = entries ∧
      ∀ name, found.get? name = entries.lookup name := by
  cases x with
  | error e => cases h
  | ok found =>
    have hentries : found.entries = entries := Option.some.inj h
    exact ⟨found, rfl, hentries, fun name => hentries ▸ rfl⟩

/-- The sample inventory beside a workload of another cluster. -/
def neighbourInventory : Inventory ℚ :=
  Report.sampleInventory.insert "e" { cluster := "north", network := [⟨12, 3⟩] }

/-- The sample bill beside a bill of the other cluster. -/
def neighbourBilling : Billing :=
  Assoc.ofList [("north", { sampleBill with cpu := [⟨"1570000000", "7"⟩] }), ("east", sampleBill)]

/-- The estimation of the same day, a week earlier. -/
def neighbourEstimation : EstimateM ℚ (Index ℚ) :=
  idleCoefficients neighbourInventory (fun _ _ => .ok neighbourBilling) none (1 / 10) "24h"
    (some "7d")

/-- The neighbour leaves the coefficient of the sample's cluster as it is. -/
theorem idleCoefficients_local_neighbour :
    ∃ found found', sampleEstimation.run.value = .ok found ∧
      neighbourEstimation.run.value = .ok found' ∧ "east" ∈ found.names ∧
      "north" ∉ found.names ∧ found'.get? "east" = found.get? "east" := by
  obtain ⟨found, hfound⟩ : ∃ found, sampleEstimation.run.value = .ok found :=
    exists_eq_ok_of_isSome (by decide +kernel)
  obtain ⟨found', hfound'⟩ : ∃ found', neighbourEstimation.run.value = .ok found' :=
    exists_eq_ok_of_isSome (by decide +kernel)
  have hbill : neighbourBilling.get? "east" = (Assoc.ofList [("east", sampleBill)]).get? "east" := by
    decide +kernel
  have hown : neighbourInventory.own "east" = Report.sampleInventory.own "east" := by rfl
  have heast : ∃ w ∈ Report.sampleInventory.values, w.cluster = "east" := by decide +kernel
  have hnorth : ¬ ∃ w ∈ Report.sampleInventory.values, w.cluster = "north" := by decide +kernel
  obtain ⟨length, billing, -, hbilling, hnames, -, hlocal⟩ :=
    idleCoefficients_local Report.sampleInventory sampleSource none (1 / 10) "24h" none found
      hfound
  obtain rfl := Except.ok.inj hbilling
  have hget : found'.get? "east" = found.get? "east" :=
    hlocal neighbourInventory _ (some "7d") _ found' hfound' rfl "east" hbill hown
  exact ⟨found, found', hfound, hfound', (hnames _).mpr heast, mt (hnames _).mp hnorth, hget⟩

end Chargeback

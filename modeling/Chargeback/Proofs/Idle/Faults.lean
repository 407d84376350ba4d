import Chargeback.Proofs.Idle.Run

/-!
# When an estimation fails

An estimation reads its window, asks the billing source once, and then visits the clusters of the
inventory in ascending order. Each of the three can fail, and the first failure ends it. A cluster
can only fail over its bill: over the first amount of an item, and only if every item has a sample
(`unreadable_of_outcome`, `readable_of_outcome`). So the fault of the visits is that of the least
cluster with an unreadable amount, at the first unreadable item of its bill (`FirstUnreadable`,
`value_visits_eq_error_iff`). `idleCoefficients_fault_iff` puts the three together.
-/

namespace Chargeback

/-! ## The amounts that are read -/

namespace ClusterTotals

/-- The samples of an item. -/
def samples (t : ClusterTotals) : BillItem → List BillingSample
  | .cpu => t.cpu
  | .memory => t.memory
  | .storage => t.storage

/-- The amount of the first sample of an item. -/
def leading (t : ClusterTotals) (item : BillItem) : String :=
  ((t.samples item).head?.map BillingSample.amount).getD ""

end ClusterTotals

/-- The place of an item in the order in which the items of a bill are read. -/
def BillItem.rank : BillItem → Nat
  | .cpu => 0
  | .memory => 1
  | .storage => 2

theorem BillItem.rank_injective {a b : BillItem} (h : a.rank = b.rank) : a = b := by
  cases a <;> cases b <;> first | rfl | contradiction

namespace Billing

/-- The amounts that are read of a cluster's bill: the first of every item, if all items have one. -/
def leading? (billing : Billing) (cluster : String) : Option (BillItem → String) :=
  ((billing.get? cluster).filter ClusterTotals.hasData).map ClusterTotals.leading

/-- An amount that would be read of a cluster's bill is no number. -/
def Unreadable (billing : Billing) (cluster : String) (item : BillItem) (amount : String)
    (defect : Numeral.Defect) : Prop :=
  (∃ amounts, billing.leading? cluster = some amounts ∧ amounts item = amount) ∧
    Numeral.read amount = .error defect

/-- Of the unreadable amounts of some clusters, the first one of the least cluster. -/
structure FirstUnreadable (billing : Billing) (clusters : List String) (cluster : String)
    (item : BillItem) (amount : String) (defect : Numeral.Defect) : Prop where
  mem : cluster ∈ clusters
  unreadable : billing.Unreadable cluster item amount defect
  /-- No lesser cluster has an unreadable amount. -/
  least : ∀ c ∈ clusters, ∀ item amount defect, billing.Unreadable c item amount defect →
    cluster ≤ c
  /-- No earlier item of the bill is unreadable. -/
  first : ∀ earlier amount defect, billing.Unreadable cluster earlier amount defect →
    item.rank ≤ earlier.rank

variable {billing billing' : Billing} {clusters clusters' : List String} {cluster cluster' : String}
  {item item' : BillItem} {amount amount' : String} {defect defect' : Numeral.Defect}

theorem unreadable_iff_of_totals {totals : ClusterTotals}
    (h : (billing.get? cluster).filter ClusterTotals.hasData = some totals) :
    billing.Unreadable cluster item amount defect ↔
      totals.leading item = amount ∧ Numeral.read amount = .error defect := by
  simp [Unreadable, leading?, h]

theorem not_unreadable_of_no_totals
    (h : (billing.get? cluster).filter ClusterTotals.hasData = none) :
    ¬ billing.Unreadable cluster item amount defect := by
  simp [Unreadable, leading?, h]

/-- Only the amounts that are read count. -/
theorem unreadable_congr (h : billing'.leading? cluster = billing.leading? cluster) :
    billing'.Unreadable cluster item amount defect ↔
      billing.Unreadable cluster item amount defect := by
  rw [Unreadable, Unreadable, h]

/-- An item has one amount, and an amount has one defect. -/
theorem Unreadable.unique (h : billing.Unreadable cluster item amount defect)
    (h' : billing.Unreadable cluster item amount' defect') : amount' = amount ∧ defect' = defect := by
  obtain ⟨⟨amounts, hamounts, rfl⟩, hdefect⟩ := h
  obtain ⟨⟨amounts', hamounts', rfl⟩, hdefect'⟩ := h'
  obtain rfl := Option.some.inj (hamounts'.symm.trans hamounts)
  exact ⟨rfl, Except.error.inj (hdefect'.symm.trans hdefect)⟩

namespace FirstUnreadable

/-- At most one amount is the first. -/
theorem unique (h : billing.FirstUnreadable clusters cluster item amount defect)
    (h' : billing.FirstUnreadable clusters cluster' item' amount' defect') :
    cluster' = cluster ∧ item' = item ∧ amount' = amount ∧ defect' = defect := by
  obtain rfl : cluster' = cluster :=
    String.le_antisymm (h'.least _ h.mem _ _ _ h.unreadable) (h.least _ h'.mem _ _ _ h'.unreadable)
  obtain rfl : item' = item :=
    BillItem.rank_injective
      (Nat.le_antisymm (h'.first _ _ _ h.unreadable) (h.first _ _ _ h'.unreadable))
  exact ⟨rfl, rfl, h.unreadable.unique h'.unreadable⟩

/-- Neither the order of the clusters nor the amounts that are not read count. -/
theorem of_agree (h : billing.FirstUnreadable clusters cluster item amount defect)
    (hmem : ∀ c, c ∈ clusters' ↔ c ∈ clusters)
    (hread : ∀ c ∈ clusters, billing'.leading? c = billing.leading? c) :
    billing'.FirstUnreadable clusters' cluster item amount defect where
  mem := (hmem cluster).mpr h.mem
  unreadable := (unreadable_congr (hread cluster h.mem)).mpr h.unreadable
  least c hc i a d hu := by
    have hc := (hmem c).mp hc
    exact h.least c hc i a d ((unreadable_congr (hread c hc)).mp hu)
  first i a d hu := h.first i a d ((unreadable_congr (hread cluster h.mem)).mp hu)

theorem iff_of_agree (hmem : ∀ c, c ∈ clusters' ↔ c ∈ clusters)
    (hread : ∀ c ∈ clusters, billing'.leading? c = billing.leading? c) :
    billing'.FirstUnreadable clusters' cluster item amount defect ↔
      billing.FirstUnreadable clusters cluster item amount defect := by
  constructor
  · intro h
    exact h.of_agree (fun c => (hmem c).symm) fun c hc => (hread c ((hmem c).mp hc)).symm
  · intro h
    exact h.of_agree hmem hread

end FirstUnreadable

end Billing

/-! ## The billing queries -/

section Queries

variable {α : Type}

theorem Effect.queries_append (es fs : List (Effect α)) :
    queries (es ++ fs) = queries es ++ queries fs := List.filterMap_append

/-- A complaint is no query. -/
theorem Journaled.Complains.queries_eq_nil {β : Type} {x : Journaled (Effect α) β}
    (hx : x.Complains) : Effect.queries x.journal = [] := by
  rw [Effect.queries, List.filterMap_eq_nil_iff]
  intro e he
  obtain ⟨price, defect, rfl⟩ := hx e he
  rfl

theorem Outcome.queries_effects [Number α] (cluster : String) (o : Outcome α) :
    Effect.queries (o.effects cluster) = [] := by
  cases o <;> rfl

end Queries

/-! ## One cluster -/

section Cluster

variable {α : Type} [Number α] {inventory : Inventory α} {billing : Billing} {terms : Terms α}
  {window : Window} {cluster : String}

theorem readTotal_samples (cluster : String) (item : BillItem) (totals : ClusterTotals) :
    readTotal (α := α) cluster item (totals.samples item) =
      match Numeral.read (totals.leading item) with
      | .ok n => .ok (Number.ofNumeral n)
      | .error defect => .error (.invalidBillingTotal cluster item (totals.leading item) defect) :=
  rfl

theorem readTotal_eq_ok (item : BillItem) {totals : ClusterTotals} {x : α}
    (h : readTotal cluster item (totals.samples item) = .ok x) :
    ∃ n, Numeral.read (totals.leading item) = .ok n ∧ x = Number.ofNumeral n := by
  rw [readTotal_samples] at h
  cases hn : Numeral.read (totals.leading item) with
  | error defect => simp [hn] at h
  | ok n =>
    rw [hn] at h
    exact ⟨n, rfl, (Except.ok.inj h).symm⟩

theorem readTotal_eq_error (item : BillItem) {totals : ClusterTotals} {e : Fault}
    (h : readTotal (α := α) cluster item (totals.samples item) = .error e) :
    ∃ defect, Numeral.read (totals.leading item) = .error defect ∧
      e = .invalidBillingTotal cluster item (totals.leading item) defect := by
  rw [readTotal_samples] at h
  cases hn : Numeral.read (totals.leading item) with
  | ok n => simp [hn] at h
  | error defect =>
    rw [hn] at h
    exact ⟨defect, rfl, (Except.error.inj h).symm⟩

/-- A bill that can be made has been read. -/
theorem read_leading_of_monthlyBill {totals : ClusterTotals} {discount bill : α}
    (h : monthlyBill cluster totals discount = .ok bill) (item : BillItem) :
    ∃ n, Numeral.read (totals.leading item) = .ok n := by
  obtain ⟨cpu, memory, storage, hcpu, hmemory, hstorage, -⟩ := monthlyBill_eq_ok h
  have hread : ∃ x : α, readTotal cluster item (totals.samples item) = .ok x := by
    cases item with
    | cpu => exact ⟨cpu, hcpu⟩
    | memory => exact ⟨memory, hmemory⟩
    | storage => exact ⟨storage, hstorage⟩
  obtain ⟨x, hx⟩ := hread
  obtain ⟨n, hn, -⟩ := readTotal_eq_ok item hx
  exact ⟨n, hn⟩

/-- A bill fails at the first item that cannot be read. -/
theorem monthlyBill_eq_error {totals : ClusterTotals} {discount : α} {e : Fault}
    (h : monthlyBill cluster totals discount = .error e) :
    ∃ item defect, Numeral.read (totals.leading item) = .error defect ∧
      e = .invalidBillingTotal cluster item (totals.leading item) defect ∧
      ∀ earlier d, Numeral.read (totals.leading earlier) = .error d → item.rank ≤ earlier.rank := by
  unfold monthlyBill at h
  rcases bind_eq_error_iff.mp h with hcpu | ⟨cpu, hcpu, h⟩
  · obtain ⟨defect, hdefect, rfl⟩ := readTotal_eq_error .cpu hcpu
    exact ⟨.cpu, defect, hdefect, rfl, fun _ _ _ => Nat.zero_le _⟩
  obtain ⟨_, hreadCpu, -⟩ := readTotal_eq_ok .cpu hcpu
  rcases bind_eq_error_iff.mp h with hmemory | ⟨memory, hmemory, h⟩
  · obtain ⟨defect, hdefect, rfl⟩ := readTotal_eq_error .memory hmemory
    refine ⟨.memory, defect, hdefect, rfl, fun earlier d hd => ?_⟩
    cases earlier with
    | cpu => simp [hreadCpu] at hd
    | memory | storage => decide
  obtain ⟨_, hreadMemory, -⟩ := readTotal_eq_ok .memory hmemory
  rcases bind_eq_error_iff.mp h with hstorage | ⟨storage, hstorage, h⟩
  · obtain ⟨defect, hdefect, rfl⟩ := readTotal_eq_error .storage hstorage
    refine ⟨.storage, defect, hdefect, rfl, fun earlier d hd => ?_⟩
    cases earlier with
    | cpu => simp [hreadCpu] at hd
    | memory => simp [hreadMemory] at hd
    | storage => exact Nat.le_refl _
  · cases h

/-- A cluster that has an outcome has no unreadable amount. -/
theorem readable_of_outcome {o : Outcome α}
    (h : (outcome inventory billing terms window cluster).run.value = .ok o) (item : BillItem)
    (amount : String) (defect : Numeral.Defect) :
    ¬ billing.Unreadable cluster item amount defect := by
  rw [run_outcome] at h
  cases htotals : (billing.get? cluster).filter ClusterTotals.hasData with
  | none => exact Billing.not_unreadable_of_no_totals htotals
  | some totals =>
    rw [Billing.unreadable_iff_of_totals htotals]
    rintro ⟨rfl, hdefect⟩
    cases hbill : monthlyBill cluster totals terms.discount with
    | error e => simp [htotals, hbill] at h
    | ok bill =>
      obtain ⟨n, hn⟩ := read_leading_of_monthlyBill hbill item
      rw [hn] at hdefect
      cases hdefect

/-- A cluster that fails has an unreadable amount, and fails over the first. -/
theorem unreadable_of_outcome {e : Fault}
    (h : (outcome inventory billing terms window cluster).run.value = .error e) :
    ∃ item amount defect, e = .invalidBillingTotal cluster item amount defect ∧
      billing.Unreadable cluster item amount defect ∧
      ∀ earlier a d, billing.Unreadable cluster earlier a d → item.rank ≤ earlier.rank := by
  rw [run_outcome] at h
  cases htotals : (billing.get? cluster).filter ClusterTotals.hasData with
  | none => simp [htotals] at h
  | some totals =>
    cases hbill : monthlyBill cluster totals terms.discount with
    | error fault =>
      simp only [htotals, hbill] at h
      obtain rfl := Except.error.inj h
      obtain ⟨item, defect, hdefect, rfl, hfirst⟩ := monthlyBill_eq_error hbill
      have hiff : ∀ i a d, billing.Unreadable cluster i a d ↔
          totals.leading i = a ∧ Numeral.read a = .error d :=
        fun _ _ _ => Billing.unreadable_iff_of_totals htotals
      refine ⟨item, _, defect, rfl, (hiff ..).mpr ⟨rfl, hdefect⟩, fun earlier a d hd => ?_⟩
      obtain ⟨rfl, hread⟩ := (hiff ..).mp hd
      exact hfirst earlier d hread
    | ok bill =>
      simp only [htotals, hbill] at h
      split at h
      · cases h
      · split at h <;> cases h

/-! ## All clusters -/

/-- Visits that do not end well end at a cluster that fails, after others that do not. -/
theorem exists_failing_of_visits {clusters : List String} {before : Index α} {e : Fault}
    (h : (clusters.foldlM (visit inventory billing terms window) before).run.value = .error e) :
    ∃ pre c post, clusters = pre ++ c :: post ∧
      (∀ d ∈ pre, ∃ o, (outcome inventory billing terms window d).run.value = .ok o) ∧
      (outcome inventory billing terms window c).run.value = .error e := by
  induction clusters generalizing before with
  | nil => cases h
  | cons c clusters ih =>
    rw [List.foldlM_cons, EstimateM.run_bind, run_visit] at h
    cases ho : (outcome inventory billing terms window c).run.value with
    | error f =>
      simp only [ho] at h
      obtain rfl := Except.error.inj h
      exact ⟨[], c, clusters, rfl, by simp, ho⟩
    | ok o =>
      simp only [ho] at h
      obtain ⟨pre, d, post, rfl, hpre, hd⟩ := ih h
      refine ⟨c :: pre, d, post, rfl, fun b hb => ?_, hd⟩
      rcases List.mem_cons.mp hb with rfl | hb
      · exact ⟨o, ho⟩
      · exact hpre b hb

/-- Visits that end well have met no unreadable amount. -/
theorem readable_of_visits {clusters : List String} {before after : Index α}
    (h : (clusters.foldlM (visit inventory billing terms window) before).run.value = .ok after) :
    ∀ c ∈ clusters, ∀ item amount defect, ¬ billing.Unreadable c item amount defect := by
  intro c hc
  have hvisited := visitedAll_of_run (congrArg (fun v => Journaled.mk v _) h)
  obtain ⟨o, ho, -⟩ := hvisited.outcomes c hc
  exact readable_of_outcome ho

/-- Visits in ascending order that do not end well fail over the first unreadable amount. -/
theorem firstUnreadable_of_visits {clusters : List String} (hasc : clusters.Pairwise (· < ·))
    {before : Index α} {e : Fault}
    (h : (clusters.foldlM (visit inventory billing terms window) before).run.value = .error e) :
    ∃ c item amount defect, e = .invalidBillingTotal c item amount defect ∧
      billing.FirstUnreadable clusters c item amount defect := by
  obtain ⟨pre, c, post, rfl, hpre, hc⟩ := exists_failing_of_visits h
  obtain ⟨item, amount, defect, rfl, hunreadable, hfirst⟩ := unreadable_of_outcome hc
  refine ⟨c, item, amount, defect, rfl, by simp, hunreadable, fun d hd i a f hu => ?_, hfirst⟩
  -- a lesser cluster has been visited before and has an outcome
  rcases List.mem_append.mp hd with hd | hd
  · obtain ⟨o, ho⟩ := hpre d hd
    exact absurd hu (readable_of_outcome ho i a f)
  · rcases List.mem_cons.mp hd with rfl | hd
    · exact String.le_refl d
    · have hlt : c < d := (List.pairwise_cons.mp (List.pairwise_append.mp hasc).2.1).1 d hd
      exact Std.le_of_lt hlt

/-- **The fault of the visits** is that of the first unreadable amount of the least cluster. -/
theorem value_visits_eq_error_iff {clusters : List String} (hasc : clusters.Pairwise (· < ·))
    {before : Index α} {e : Fault} :
    (clusters.foldlM (visit inventory billing terms window) before).run.value = .error e ↔
      ∃ c item amount defect, e = .invalidBillingTotal c item amount defect ∧
        billing.FirstUnreadable clusters c item amount defect := by
  refine ⟨firstUnreadable_of_visits hasc, ?_⟩
  rintro ⟨c, item, amount, defect, rfl, hfirst⟩
  cases h : (clusters.foldlM (visit inventory billing terms window) before).run.value with
  | ok after => exact absurd hfirst.unreadable (readable_of_visits h c hfirst.mem item amount defect)
  | error e =>
    obtain ⟨c', item', amount', defect', rfl, hfirst'⟩ := firstUnreadable_of_visits hasc h
    obtain ⟨rfl, rfl, rfl, rfl⟩ := hfirst.unique hfirst'
    rfl

/-- Visits end well exactly if no cluster has an unreadable amount. -/
theorem value_visits_eq_ok_iff {clusters : List String} (hasc : clusters.Pairwise (· < ·))
    {before : Index α} :
    (∃ after, (clusters.foldlM (visit inventory billing terms window) before).run.value =
      .ok after) ↔
      ∀ c ∈ clusters, ∀ item amount defect, ¬ billing.Unreadable c item amount defect := by
  refine ⟨fun ⟨after, h⟩ => readable_of_visits h, fun hread => ?_⟩
  cases h : (clusters.foldlM (visit inventory billing terms window) before).run.value with
  | ok after => exact ⟨after, rfl⟩
  | error e =>
    obtain ⟨c, item, amount, defect, -, hfirst⟩ := firstUnreadable_of_visits hasc h
    exact absurd hfirst.unreadable (hread c hfirst.mem item amount defect)

/-- No visit asks the billing source. -/
theorem queries_visits (clusters : List String) (before : Index α) :
    Effect.queries
      (clusters.foldlM (visit inventory billing terms window) before).run.journal = [] := by
  induction clusters generalizing before with
  | nil => rfl
  | cons c clusters ih =>
    have houtcome : Effect.queries (outcome inventory billing terms window c).run.journal = [] :=
      complains_outcome.queries_eq_nil
    rw [List.foldlM_cons, EstimateM.run_bind, run_visit]
    cases ho : (outcome inventory billing terms window c).run.value with
    | error e => simpa only [ho] using houtcome
    | ok o =>
      simp only [ho]
      rw [Effect.queries_append, Effect.queries_append, houtcome, o.queries_effects, ih]
      rfl

end Cluster

/-! ## The estimation -/

theorem Inventory.mem_clusters {α : Type} (inventory : Inventory α) (cluster : String) :
    cluster ∈ inventory.clusters ↔ cluster ∈ inventory.values.map Workload.cluster :=
  mem_distinctAscending

theorem Inventory.pairwise_clusters {α : Type} (inventory : Inventory α) :
    inventory.clusters.Pairwise (· < ·) :=
  pairwise_distinctAscending _

section Estimation

variable {α : Type} [Number α] (inventory : Inventory α) (customPricing : Option CustomPricing)
  (discount : α) {source : BillingSource} {window : String} {offset : Option String}

/-- Without a window, nothing is asked. -/
theorem run_of_no_window (hwindow : Window.read? window = none) :
    (idleCoefficients inventory source customPricing discount window offset).run =
      ⟨.error (.invalidWindow window), []⟩ := by
  rw [run_idleCoefficients, Window.read, hwindow]

/-- Without bills, no cluster is visited. -/
theorem run_of_no_bills (hwindow : (Window.read? window).isSome) {reasons : List String}
    (hsource : source window offset = .error reasons) :
    (idleCoefficients inventory source customPricing discount window offset).run =
      ⟨.error (.billingQuery reasons), [.billingQuery window offset]⟩ := by
  obtain ⟨length, hlength⟩ := Option.isSome_iff_exists.mp hwindow
  rw [run_idleCoefficients, Window.read, hlength, hsource]

/-- Where there are bills, all clusters are visited. -/
theorem run_of_bills (hwindow : (Window.read? window).isSome) {billing : Billing}
    (hsource : source window offset = .ok billing) :
    ∃ length, (idleCoefficients inventory source customPricing discount window offset).run =
      let r := ((Inventory.clusters inventory).foldlM
        (visit inventory billing { cadence := .cumulative, discount, customPricing } length) ∅).run
      ⟨r.value, .billingQuery window offset :: r.journal⟩ := by
  obtain ⟨length, hlength⟩ := Option.isSome_iff_exists.mp hwindow
  refine ⟨length, ?_⟩
  rw [run_idleCoefficients, Window.read, hlength, hsource]

/-- **The fault over the bills** is that of the first unreadable amount. -/
theorem value_eq_error_iff_of_bills (hwindow : (Window.read? window).isSome) {billing : Billing}
    (hsource : source window offset = .ok billing) {e : Fault} :
    (idleCoefficients inventory source customPricing discount window offset).run.value = .error e ↔
      ∃ c item amount defect, e = .invalidBillingTotal c item amount defect ∧
        billing.FirstUnreadable (inventory.values.map Workload.cluster) c item amount defect := by
  obtain ⟨length, hrun⟩ := run_of_bills inventory customPricing discount hwindow hsource
  rw [hrun]
  dsimp only
  rw [value_visits_eq_error_iff inventory.pairwise_clusters]
  simp only [Billing.FirstUnreadable.iff_of_agree (Inventory.mem_clusters inventory) fun _ _ => rfl]

/-- Where there are bills, an estimation ends well exactly if no amount is unreadable. -/
theorem value_eq_ok_iff_of_bills (hwindow : (Window.read? window).isSome) {billing : Billing}
    (hsource : source window offset = .ok billing) :
    (∃ found, (idleCoefficients inventory source customPricing discount window offset).run.value =
      .ok found) ↔
      ∀ w ∈ inventory.values, ∀ item amount defect,
        ¬ billing.Unreadable w.cluster item amount defect := by
  obtain ⟨length, hrun⟩ := run_of_bills inventory customPricing discount hwindow hsource
  rw [hrun]
  dsimp only
  rw [value_visits_eq_ok_iff inventory.pairwise_clusters]
  simp only [Inventory.mem_clusters, List.forall_mem_map]

theorem value_eq_billing_error_iff_of_bills (hwindow : (Window.read? window).isSome)
    {billing : Billing} (hsource : source window offset = .ok billing) {cluster : String}
    {item : BillItem} {amount : String} {defect : Numeral.Defect} :
    (idleCoefficients inventory source customPricing discount window offset).run.value =
        .error (.invalidBillingTotal cluster item amount defect) ↔
      billing.FirstUnreadable (inventory.values.map Workload.cluster) cluster item amount
        defect := by
  rw [value_eq_error_iff_of_bills inventory customPricing discount hwindow hsource]
  constructor
  · rintro ⟨_, _, _, _, he, hfirst⟩
    cases he
    exact hfirst
  · intro hfirst
    exact ⟨cluster, item, amount, defect, rfl, hfirst⟩

/-- Where there are bills, an estimation fails over one exactly if some amount is unreadable. -/
theorem exists_billing_error_iff_of_bills (hwindow : (Window.read? window).isSome)
    {billing : Billing} (hsource : source window offset = .ok billing) :
    (∃ cluster item amount defect,
      (idleCoefficients inventory source customPricing discount window offset).run.value =
        .error (.invalidBillingTotal cluster item amount defect)) ↔
      ∃ w ∈ inventory.values, ∃ item amount defect,
        billing.Unreadable w.cluster item amount defect := by
  constructor
  · rintro ⟨c, item, amount, defect, hvalue⟩
    have hfirst := (value_eq_billing_error_iff_of_bills inventory customPricing discount hwindow
      hsource).mp hvalue
    obtain ⟨w, hw, rfl⟩ := List.mem_map.mp hfirst.mem
    exact ⟨w, hw, item, amount, defect, hfirst.unreadable⟩
  · rintro ⟨w, hw, item, amount, defect, hunreadable⟩
    cases hvalue :
        (idleCoefficients inventory source customPricing discount window offset).run.value with
    | ok found =>
      have hreadable := (value_eq_ok_iff_of_bills inventory customPricing discount hwindow
        hsource).mp ⟨found, hvalue⟩
      exact absurd hunreadable (hreadable w hw item amount defect)
    | error e =>
      obtain ⟨c, item, amount, defect, rfl, -⟩ := (value_eq_error_iff_of_bills inventory
        customPricing discount hwindow hsource).mp hvalue
      exact ⟨c, item, amount, defect, rfl⟩

/-- The billing source is asked once, if there is a window, for the window and the offset. -/
theorem queries_idleCoefficients (source : BillingSource) (window : String)
    (offset : Option String) :
    Effect.queries
        (idleCoefficients inventory source customPricing discount window offset).run.journal =
      if (Window.read? window).isSome then [(window, offset)] else [] := by
  cases hwindow : Window.read? window with
  | none =>
    rw [run_of_no_window inventory customPricing discount hwindow]
    rfl
  | some length =>
    have hsome : (Window.read? window).isSome := by rw [hwindow]; rfl
    cases hsource : source window offset with
    | error reasons =>
      rw [run_of_no_bills inventory customPricing discount hsome hsource]
      rfl
    | ok billing =>
      obtain ⟨length, hrun⟩ := run_of_bills inventory customPricing discount hsome hsource
      rw [hrun]
      exact congrArg ((window, offset) :: ·) (queries_visits _ _)

/-- Only the amounts that are read of the clusters of the inventory can make an estimation fail. -/
theorem value_eq_error_congr {source' : BillingSource} {billing billing' : Billing}
    (hsource : source window offset = .ok billing)
    (hsource' : source' window offset = .ok billing')
    (hread : ∀ w ∈ inventory.values, billing'.leading? w.cluster = billing.leading? w.cluster)
    (e : Fault) :
    (idleCoefficients inventory source' customPricing discount window offset).run.value =
        .error e ↔
      (idleCoefficients inventory source customPricing discount window offset).run.value =
        .error e := by
  cases hwindow : Window.read? window with
  | none =>
    rw [run_of_no_window inventory customPricing discount hwindow,
      run_of_no_window inventory customPricing discount hwindow]
  | some length =>
    have hsome : (Window.read? window).isSome := by rw [hwindow]; rfl
    rw [value_eq_error_iff_of_bills inventory customPricing discount hsome hsource,
      value_eq_error_iff_of_bills inventory customPricing discount hsome hsource']
    have hread : ∀ c ∈ inventory.values.map Workload.cluster,
        billing'.leading? c = billing.leading? c := List.forall_mem_map.mpr hread
    simp only [Billing.FirstUnreadable.iff_of_agree (fun _ => Iff.rfl) hread]

/-- **Exactly when, and with which fault, an estimation fails.** Without a window it does so before
the billing source is asked; else the source is asked once. Without its answer the estimation fails
for the reasons of the source. With an answer, it fails if and only if some cluster of the inventory
has an unreadable amount, over the first one of the least such cluster; and else it ends well. No
other amounts than those make a difference to how it fails. -/
theorem idleCoefficients_fault_iff (source : BillingSource) (window : String)
    (offset : Option String) :
    let r := (idleCoefficients inventory source customPricing discount window offset).run
    Effect.queries r.journal = (if (Window.read? window).isSome then [(window, offset)] else []) ∧
    (∀ text, r.value = .error (.invalidWindow text) ↔
      Window.read? window = none ∧ text = window) ∧
    (∀ reasons, r.value = .error (.billingQuery reasons) ↔
      (Window.read? window).isSome ∧ source window offset = .error reasons) ∧
    ((∃ cluster item amount defect,
        r.value = .error (.invalidBillingTotal cluster item amount defect)) ↔
      (Window.read? window).isSome ∧ ∃ billing, source window offset = .ok billing ∧
        ∃ w ∈ inventory.values, ∃ item amount defect,
          billing.Unreadable w.cluster item amount defect) ∧
    (∀ cluster item amount defect,
      r.value = .error (.invalidBillingTotal cluster item amount defect) ↔
        (Window.read? window).isSome ∧ ∃ billing, source window offset = .ok billing ∧
          billing.FirstUnreadable (inventory.values.map Workload.cluster) cluster item amount
            defect) ∧
    ((∃ found, r.value = .ok found) ↔
      (Window.read? window).isSome ∧ ∃ billing, source window offset = .ok billing ∧
        ∀ w ∈ inventory.values, ∀ item amount defect,
          ¬ billing.Unreadable w.cluster item amount defect) ∧
    (∀ (source' : BillingSource) (billing billing' : Billing), source window offset = .ok billing →
      source' window offset = .ok billing' →
      (∀ w ∈ inventory.values, billing'.leading? w.cluster = billing.leading? w.cluster) →
      ∀ e, (idleCoefficients inventory source' customPricing discount window offset).run.value =
        .error e ↔ r.value = .error e) := by
  intro r
  refine ⟨queries_idleCoefficients inventory customPricing discount source window offset, ?_⟩
  cases hwindow : Window.read? window with
  | none =>
    have hvalue : r.value = .error (.invalidWindow window) :=
      congrArg Journaled.value (run_of_no_window inventory customPricing discount hwindow)
    exact ⟨by simp [hvalue, eq_comm], by simp [hvalue], by simp [hvalue], by simp [hvalue],
      by simp [hvalue], fun _ _ _ => value_eq_error_congr inventory customPricing discount⟩
  | some length =>
    have hsome : (Window.read? window).isSome := by rw [hwindow]; rfl
    cases hsource : source window offset with
    | error reasons =>
      have hvalue : r.value = .error (.billingQuery reasons) :=
        congrArg Journaled.value (run_of_no_bills inventory customPricing discount hsome hsource)
      exact ⟨by simp [hvalue], by simp [hvalue], by simp [hvalue], by simp [hvalue],
        by simp [hvalue],
        fun _ _ _ h => value_eq_error_congr inventory customPricing discount (hsource.trans h)⟩
    | ok billing =>
      have herror : ∀ e, r.value = .error e ↔ _ := fun e =>
        value_eq_error_iff_of_bills inventory customPricing discount hsome hsource
      have hfirst : ∀ c item amount defect,
          r.value = .error (.invalidBillingTotal c item amount defect) ↔ _ := fun _ _ _ _ =>
        value_eq_billing_error_iff_of_bills inventory customPricing discount hsome hsource
      have hany : (∃ c item amount defect,
          r.value = .error (.invalidBillingTotal c item amount defect)) ↔ _ :=
        exists_billing_error_iff_of_bills inventory customPricing discount hsome hsource
      have hok : (∃ found, r.value = .ok found) ↔ _ :=
        value_eq_ok_iff_of_bills inventory customPricing discount hsome hsource
      exact ⟨by simp [herror], by simp [herror], by simp [hany], by simp [hfirst], by simp [hok],
        fun _ _ _ h => value_eq_error_congr inventory customPricing discount (hsource.trans h)⟩

end Estimation

end Chargeback

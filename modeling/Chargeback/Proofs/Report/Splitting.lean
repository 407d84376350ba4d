import Chargeback.Proofs.Report.Resources

/-!
# Splitting a workload

A workload is split by distributing the samples of its series between two workloads with the same
attributes (`Workload.Split`). In exact arithmetic, and away from time zero, a report hardly tells
how samples are spread over workloads: it has the same buckets, and each of them the same costs
(`report_split`).

There is one exception. A report that is not cumulative, and is not given the number of periods,
takes the number of samples in the longest cost series of a bucket for it. A cost series that
nothing is merged with keeps two samples at one grid time apart, and its two halves are collapsed,
so the number of periods may fall when the only workload of a bucket is split
(`report_split_crowded`). The costs are the same as long as it does not (`longestIn`), and it does
not where no series can get shorter (`KeepsLength`).
-/

namespace Chargeback

/-! ## Two halves of a workload -/

/-- Two workloads run in the same place, belong together in every report, and pay the same
prices. -/
structure Workload.SameAttributes (v w : Workload ℚ) : Prop where
  pod : v.pod = w.pod
  namespaceName : v.namespaceName = w.namespaceName
  cluster : v.cluster = w.cluster
  node : v.node = w.node
  services : v.services = w.services
  deployments : v.deployments = w.deployments
  daemonsets : v.daemonsets = w.daemonsets
  labels : v.labels = w.labels

/-- The samples of a claim, distributed between two claims on the same volume. -/
structure Claim.Split (c c₁ c₂ : Claim ℚ) : Prop where
  left : c₁.volume = c.volume
  right : c₂.volume = c.volume
  requested : c.requested.Split c₁.requested c₂.requested

/-- The samples of a workload, distributed between two with the same attributes. Of the series that
nothing is charged for, how much was requested and used, it does not matter what becomes. -/
structure Workload.Split (w w₁ w₂ : Workload ℚ) : Prop where
  left : w₁.SameAttributes w
  right : w₂.SameAttributes w
  cpu : w.usage.cpu.allocation.Split w₁.usage.cpu.allocation w₂.usage.cpu.allocation
  ram : w.usage.ram.allocation.Split w₁.usage.ram.allocation w₂.usage.ram.allocation
  gpu : w.usage.gpu.Split w₁.usage.gpu w₂.usage.gpu
  claims : Forall₃ Claim.Split w.claims w₁.claims w₂.claims
  network : w.network.Split w₁.network w₂.network

namespace Workload.SameAttributes

variable {v w : Workload ℚ}

theorem isPooled_eq (h : v.SameAttributes w) (o : ReportOptions ℚ) :
    o.isPooled v = o.isPooled w := by
  simp only [ReportOptions.isPooled, SharingPolicy.appliesTo, SharingPolicy.recognises,
    h.namespaceName, h.labels]

theorem key?_eq (h : v.SameAttributes w) (field : GroupField) (subfields : List String) :
    field.key? subfields v = field.key? subfields w := by
  cases field with
  | cluster => exact congrArg some h.cluster
  | namespaceName => exact congrArg some h.namespaceName
  | service => simp only [GroupField.key?, h.services, h.namespaceName]
  | deployment => simp only [GroupField.key?, h.deployments, h.namespaceName]
  | daemonset => simp only [GroupField.key?, h.daemonsets, h.namespaceName]
  | label => simp only [GroupField.key?, h.labels]
  | pod => simp only [GroupField.key?, h.namespaceName, h.pod]

theorem belongs_eq (h : v.SameAttributes w) (field : GroupField) (subfields : List String)
    (o : ReportOptions ℚ) (key : String) :
    Report.belongs field subfields o key v = Report.belongs field subfields o key w := by
  simp only [Report.belongs, h.isPooled_eq, h.key?_eq]

end Workload.SameAttributes

/-! ## The cost of the halves -/

theorem Series.Split.price {s s₁ s₂ : Series ℚ} (h : s.Split s₁ s₂) (t : Tariff ℚ) :
    (t.price s).Split (t.price s₁) (t.price s₂) := by
  unfold Series.Split Tariff.price
  rw [← List.map_append]
  exact h.map _

theorem Terms.split_volumeCosts (terms : Terms ℚ) (prices : UnitPrices ℚ) (idleCoefficient : ℚ)
    {cs cs₁ cs₂ : List (Claim ℚ)} (h : Forall₃ Claim.Split cs cs₁ cs₂) :
    Forall₃ Series.Split (terms.volumeCosts prices idleCoefficient cs)
      (terms.volumeCosts prices idleCoefficient cs₁)
      (terms.volumeCosts prices idleCoefficient cs₂) := by
  unfold Terms.volumeCosts
  induction h with
  | nil => exact .nil
  | @cons c c₁ c₂ cs cs₁ cs₂ hc _ ih =>
    have hleft := hc.left
    have hright := hc.right
    cases hv : c.volume with
    | none =>
      rw [hv] at hleft hright
      simpa only [List.filterMap_cons, hv, hleft, hright, Option.map_none] using ih
    | some v =>
      rw [hv] at hleft hright
      simp only [List.filterMap_cons, hv, hleft, hright, Option.map_some]
      exact .cons (hc.requested.price _) ih

/-- **The cost of a workload is distributed between its halves**, resource by resource. -/
theorem Workload.Split.parts {w w₁ w₂ : Workload ℚ} (h : w.Split w₁ w₂) (o : ReportOptions ℚ)
    (x : Resource) :
    Forall₃ Series.Split ((o.priced w).parts x) ((o.priced w₁).parts x)
      ((o.priced w₂).parts x) := by
  have hone {s s₁ s₂ : Series ℚ} (hs : s.Split s₁ s₂) : Forall₃ Series.Split [s] [s₁] [s₂] :=
    .cons hs .nil
  simp only [ReportOptions.priced, Workload.value_price, h.left.cluster, h.right.cluster,
    h.left.node, h.right.node]
  cases x with
  | cpu => exact hone (h.cpu.price _)
  | ram => exact hone (h.ram.price _)
  | gpu => exact hone (h.gpu.price _)
  | volume => exact Terms.split_volumeCosts _ _ _ h.claims
  | network => exact hone h.network

theorem Claim.offOrigin_split {cs cs₁ cs₂ : List (Claim ℚ)} (h : Forall₃ Claim.Split cs cs₁ cs₂)
    (hcs : ∀ c ∈ cs, c.requested.OffOrigin) :
    (∀ c ∈ cs₁, c.requested.OffOrigin) ∧ ∀ c ∈ cs₂, c.requested.OffOrigin := by
  induction h with
  | nil => exact ⟨hcs, hcs⟩
  | @cons c c₁ c₂ cs cs₁ cs₂ hc _ ih =>
    rw [List.forall_mem_cons] at hcs
    rw [List.forall_mem_cons, List.forall_mem_cons]
    obtain ⟨hleft, hright⟩ := hc.requested.offOrigin hcs.1
    obtain ⟨htail₁, htail₂⟩ := ih hcs.2
    exact ⟨⟨hleft, htail₁⟩, hright, htail₂⟩

theorem Workload.Split.offOrigin {w w₁ w₂ : Workload ℚ} (h : w.Split w₁ w₂) (hw : w.OffOrigin) :
    w₁.OffOrigin ∧ w₂.OffOrigin := by
  obtain ⟨hcpu₁, hcpu₂⟩ := h.cpu.offOrigin hw.cpu
  obtain ⟨hram₁, hram₂⟩ := h.ram.offOrigin hw.ram
  obtain ⟨hgpu₁, hgpu₂⟩ := h.gpu.offOrigin hw.gpu
  obtain ⟨hclaims₁, hclaims₂⟩ := Claim.offOrigin_split h.claims hw.claims
  obtain ⟨hnetwork₁, hnetwork₂⟩ := h.network.offOrigin hw.network
  exact ⟨⟨hcpu₁, hram₁, hgpu₁, hclaims₁, hnetwork₁⟩, ⟨hcpu₂, hram₂, hgpu₂, hclaims₂, hnetwork₂⟩⟩

/-- The halves together cost what the workload costs. -/
theorem Workload.Split.total_priced {w w₁ w₂ : Workload ℚ} (h : w.Split w₁ w₂)
    (o : ReportOptions ℚ) :
    (o.priced w).total = (o.priced w₁).total + (o.priced w₂).total := by
  have hpart (x : Resource) : Series.total ((o.priced w).parts x).flatten =
      Series.total ((o.priced w₁).parts x).flatten +
        Series.total ((o.priced w₂).parts x).flatten := by
    rw [← Series.total_append, ← List.flatten_append]
    exact Series.total_perm (Series.flatten_split (h.parts o x)).symm
  simp only [Priced.total_eq, hpart]
  ring

namespace Report

variable {field : GroupField} {subfields : List String} {o : ReportOptions ℚ}

/-! ## The order of the workloads -/

theorem pooledCost_eq_sum (o : ReportOptions ℚ) (ws : List (Workload ℚ)) :
    pooledCost o ws = ((ws.filter o.isPooled).map fun w => (o.priced w).total).sum := by
  rw [pooledCost, List.sum_eq_foldl, List.foldl_map]

theorem offOrigin_contributions {key : String} {ws : List (Workload ℚ)}
    (h : ∀ w ∈ ws, w.OffOrigin) (x : Resource) :
    ∀ s ∈ contributions field subfields o key ws x, s.OffOrigin := by
  intro s hs
  obtain ⟨w, hw, hsw⟩ := List.mem_flatMap.mp hs
  have hoff : w.OffOrigin := h w (List.mem_of_mem_filter hw)
  exact (hoff.price o.terms (o.idleCoefficient w.cluster)).parts x s hsw

variable {w w₁ w₂ : Workload ℚ} {ws us rest : List (Workload ℚ)}

/-- In whatever order a bucket takes in its workloads, their series are settled in the end. -/
theorem of_gathered_eq_settled (h : ws.Perm us) (hoff : ∀ v ∈ us, v.OffOrigin) (key : String)
    (x : Resource) :
    (gathered field subfields o key ws).costSeries.of x =
      Series.settled (contributions field subfields o key us x) := by
  have hws : ∀ v ∈ ws, v.OffOrigin := fun v hv => hoff v (h.mem_iff.mp hv)
  have hperm : (contributions field subfields o key ws x).Perm
      (contributions field subfields o key us x) := (h.filter _).flatMap_right _
  rw [of_gathered, Series.accumulate_eq_settled (offOrigin_contributions hws x),
    Series.settled_perm hperm]

theorem pooledCost_perm (h : ws.Perm us) : pooledCost o ws = pooledCost o us := by
  rw [pooledCost_eq_sum, pooledCost_eq_sum]
  exact ((h.filter _).map _).sum_eq

/-! ## One bucket -/

/-- The number of samples in the longest cost series of a bucket. -/
def longestIn (inventory : Inventory ℚ) (field : GroupField) (subfields : List String)
    (o : ReportOptions ℚ) (key : String) : ℕ :=
  (gathered field subfields o key (inKeyOrder inventory)).costSeries.longest

/-- No cost series in the bucket of the workload gets shorter when the workload is split: in every
resource, no cost series of the workload has two samples at one grid time, or the bucket takes in a
second series with samples, and they are collapsed in any case. -/
def KeepsLength (field : GroupField) (subfields : List String) (o : ReportOptions ℚ)
    (ws : List (Workload ℚ)) (w : Workload ℚ) : Prop :=
  ∀ key, belongs field subfields o key w = true → ∀ x : Resource,
    (∀ s ∈ (o.priced w).parts x, s.Spread) ∨
      2 ≤ Series.filled (contributions field subfields o key ws x)

theorem KeepsLength.perm (h : KeepsLength field subfields o ws w) (hperm : ws.Perm us) :
    KeepsLength field subfields o us w := by
  intro key hbelongs x
  have hfilled : Series.filled (contributions field subfields o key ws x) =
      Series.filled (contributions field subfields o key us x) :=
    ((hperm.filter _).flatMap_right _).countP_eq _
  rw [← hfilled]
  exact h key hbelongs x

/-- The two halves of a workload are in the bucket of the workload. -/
theorem contributions_split (hsplit : w.Split w₁ w₂) (rest : List (Workload ℚ)) (key : String)
    (x : Resource) :
    (belongs field subfields o key w = false ∧
      contributions field subfields o key (w₁ :: w₂ :: rest) x =
        contributions field subfields o key (w :: rest) x) ∨
      (belongs field subfields o key w = true ∧
        contributions field subfields o key (w :: rest) x =
          (o.priced w).parts x ++ contributions field subfields o key rest x ∧
        contributions field subfields o key (w₁ :: w₂ :: rest) x =
          (o.priced w₁).parts x ++ (o.priced w₂).parts x ++
            contributions field subfields o key rest x) := by
  have hleft := hsplit.left.belongs_eq field subfields o key
  have hright := hsplit.right.belongs_eq field subfields o key
  cases hw : belongs field subfields o key w with
  | false =>
    left
    simp [contributions, hleft, hright, hw]
  | true =>
    right
    simp [contributions, hleft, hright, hw]

/-- **The bucket of the halves** has cost series with the same totals, and of the same lengths if
nothing can have been collapsed. -/
theorem of_gathered_split (hws : ws.Perm (w :: rest)) (hus : us.Perm (w₁ :: w₂ :: rest))
    (hsplit : w.Split w₁ w₂) (hoff : ∀ v ∈ w :: rest, v.OffOrigin) (key : String) (x : Resource) :
    ((gathered field subfields o key us).costSeries.of x).total =
        ((gathered field subfields o key ws).costSeries.of x).total ∧
      (KeepsLength field subfields o (w :: rest) w →
        ((gathered field subfields o key us).costSeries.of x).length =
          ((gathered field subfields o key ws).costSeries.of x).length) := by
  obtain ⟨hw, hrest⟩ := List.forall_mem_cons.mp hoff
  obtain ⟨hw₁, hw₂⟩ := hsplit.offOrigin hw
  have hoff' : ∀ v ∈ w₁ :: w₂ :: rest, v.OffOrigin :=
    List.forall_mem_cons.mpr ⟨hw₁, List.forall_mem_cons.mpr ⟨hw₂, hrest⟩⟩
  rw [of_gathered_eq_settled hws hoff, of_gathered_eq_settled hus hoff']
  have hbefore : ∀ s ∈ contributions field subfields o key (w :: rest) x, s.OffOrigin :=
    offOrigin_contributions hoff x
  rcases contributions_split hsplit rest key x with ⟨-, heq⟩ | ⟨hbelongs, hone, htwo⟩
  · rw [heq]
    exact ⟨rfl, fun _ => rfl⟩
  · have hparts := hsplit.parts o x
    rw [hone] at hbefore
    rw [htwo, hone]
    refine ⟨Series.total_settled_split hparts hbefore, fun hkeep => ?_⟩
    exact Series.length_settled_split hparts hbefore (hone ▸ hkeep key hbelongs x)

/-- The bucket of the halves costs the same over the same number of periods. -/
theorem costs_gathered_split (hws : ws.Perm (w :: rest)) (hus : us.Perm (w₁ :: w₂ :: rest))
    (hsplit : w.Split w₁ w₂) (hoff : ∀ v ∈ w :: rest, v.OffOrigin) {key : String}
    (hperiods : o.FixesPeriods ∨ (gathered field subfields o key us).costSeries.longest =
      (gathered field subfields o key ws).costSeries.longest) (share : ℚ) :
    ((gathered field subfields o key us).finalize share o).costs =
      ((gathered field subfields o key ws).finalize share o).costs :=
  Record.costs_finalize_congr share
    (fun x => (of_gathered_split hws hus hsplit hoff key x).1) hperiods

/-! ## The report -/

/-- The halves of a pooled workload add the same to the pool. -/
theorem pooledCost_split (hsplit : w.Split w₁ w₂) :
    pooledCost o (w₁ :: w₂ :: rest) = pooledCost o (w :: rest) := by
  have hleft := hsplit.left.isPooled_eq o
  have hright := hsplit.right.isPooled_eq o
  have htotal := hsplit.total_priced o
  rw [pooledCost_eq_sum, pooledCost_eq_sum]
  cases hw : o.isPooled w with
  | false => simp [hleft, hright, hw]
  | true =>
    simp only [List.filter_cons, hleft, hright, hw, if_true, List.map_cons, List.sum_cons, htotal]
    ring

theorem mem_names_split {inventory inventory' : Inventory ℚ}
    (hws : (inKeyOrder inventory).Perm (w :: rest))
    (hus : (inKeyOrder inventory').Perm (w₁ :: w₂ :: rest)) (hsplit : w.Split w₁ w₂)
    (key : String) :
    key ∈ (report inventory' field subfields o).value.names ↔
      key ∈ (report inventory field subfields o).value.names := by
  simp only [mem_names_report_iff, hws.mem_iff, hus.mem_iff, List.mem_cons, or_and_right,
    exists_or, exists_eq_left, hsplit.left.isPooled_eq, hsplit.right.isPooled_eq,
    hsplit.left.key?_eq, hsplit.right.key?_eq]
  tauto

section Entries

variable {inventory inventory' : Inventory ℚ} {name name₁ name₂ : String}
  {others : List (String × Workload ℚ)}

theorem perm_inKeyOrder {entries : List (String × Workload ℚ)}
    (h : inventory.entries.Perm entries) :
    (inKeyOrder inventory).Perm (entries.map Prod.snd) :=
  (inKeyOrder_perm inventory).trans (h.map Prod.snd)

/-- **Where no series can get shorter**, a bucket keeps its number of periods. -/
theorem longestIn_split (hbefore : inventory.entries.Perm ((name, w) :: others))
    (hafter : inventory'.entries.Perm ((name₁, w₁) :: (name₂, w₂) :: others))
    (hsplit : w.Split w₁ w₂) (hoff : ∀ v ∈ inventory.values, v.OffOrigin)
    (hkeep : KeepsLength field subfields o inventory.values w) (key : String) :
    longestIn inventory' field subfields o key = longestIn inventory field subfields o key := by
  have hvalues : inventory.values.Perm (w :: others.map Prod.snd) := hbefore.map Prod.snd
  have hoff' : ∀ v ∈ w :: others.map Prod.snd, v.OffOrigin :=
    fun v hv => hoff v (hvalues.mem_iff.mpr hv)
  exact CostSeries.longest_congr fun x =>
    (of_gathered_split (perm_inKeyOrder hbefore) (perm_inKeyOrder hafter) hsplit hoff' key x).2
      (hkeep.perm hvalues)

/-- **A report does not tell how samples are spread over workloads.** Away from time zero, splitting
a workload of an inventory leaves the report with the same buckets. It leaves a bucket with the same
costs if the number of periods is fixed from outside, or the longest cost series of the bucket is as
long as before. That series keeps its length where none can get shorter. -/
theorem report_split (inventory inventory' : Inventory ℚ) (field : GroupField)
    (subfields : List String) (o : ReportOptions ℚ) {name name₁ name₂ : String}
    {w w₁ w₂ : Workload ℚ} {others : List (String × Workload ℚ)}
    (hbefore : inventory.entries.Perm ((name, w) :: others))
    (hafter : inventory'.entries.Perm ((name₁, w₁) :: (name₂, w₂) :: others))
    (hsplit : w.Split w₁ w₂) (hoff : ∀ v ∈ inventory.values, v.OffOrigin) :
    let before := (report inventory field subfields o).value
    let after := (report inventory' field subfields o).value
    let SameLength (key : String) :=
      longestIn inventory' field subfields o key = longestIn inventory field subfields o key
    after.names = before.names ∧
      (∀ key, o.FixesPeriods ∨ SameLength key →
        (after.get? key).map Record.costs = (before.get? key).map Record.costs) ∧
      (KeepsLength field subfields o inventory.values w → ∀ key, SameLength key) := by
  intro before after SameLength
  have hws := perm_inKeyOrder hbefore
  have hus := perm_inKeyOrder hafter
  have hmem (key : String) : key ∈ after.names ↔ key ∈ before.names :=
    mem_names_split hws hus hsplit key
  have hnames : after.names = before.names :=
    List.Pairwise.eq_of_mem_iff after.pairwise_names before.pairwise_names hmem
  refine ⟨hnames, fun key hperiods => ?_, longestIn_split hbefore hafter hsplit hoff⟩
  by_cases hkey : key ∈ before.names
  · have hsize : after.size = before.size := by
      simpa [Index.names, Index.size] using congrArg List.length hnames
    have hpool : pooledCost o (inKeyOrder inventory') = pooledCost o (inKeyOrder inventory) := by
      rw [pooledCost_perm hus, List.map_cons, List.map_cons, pooledCost_split hsplit,
        pooledCost_perm hws, List.map_cons]
    have hoff' : ∀ v ∈ w :: others.map Prod.snd, v.OffOrigin :=
      fun v hv => hoff v ((hbefore.map Prod.snd).mem_iff.mpr hv)
    have hbefore : before.get? key = _ := get?_report hkey
    have hafter : after.get? key = _ := get?_report ((hmem key).mpr hkey)
    change (report inventory' field subfields o).value.size =
      (report inventory field subfields o).value.size at hsize
    rw [hbefore, hafter, Option.map_some, Option.map_some, hpool, hsize,
      costs_gathered_split hws hus hsplit hoff' hperiods]
  · rw [Index.get?_eq_none_iff.mpr hkey, Index.get?_eq_none_iff.mpr (mt (hmem key).mp hkey)]

end Entries

/-! ## Two samples at one grid time -/

/-- Two samples of a core, at one grid time. -/
def crowded : Workload ℚ where
  namespaceName := "shop"
  node := { vcpuCost := "1" }
  usage := { cpu := { allocation := [⟨11, 1⟩, ⟨12, 1⟩] } }

/-- One of the two samples. -/
def crowdedHalf (time : ℚ) : Workload ℚ :=
  { crowded with usage := { cpu := { allocation := [⟨time, 1⟩] } } }

theorem split_crowded : crowded.Split (crowdedHalf 11) (crowdedHalf 12) where
  left := ⟨rfl, rfl, rfl, rfl, rfl, rfl, rfl, rfl⟩
  right := ⟨rfl, rfl, rfl, rfl, rfl, rfl, rfl, rfl⟩
  cpu := .refl _
  ram := .refl _
  gpu := .refl _
  claims := .nil
  network := .refl _

/-- Costs by the hour, with as many hours as there are samples. -/
def hourly : ReportOptions ℚ where
  terms := { cadence := .hourly, discount := 0 }

/-- Another workload of the bucket. -/
def neighbour : Workload ℚ :=
  { crowded with usage := { cpu := { allocation := [⟨24, 3⟩] } } }

/-- The same two samples of a core, beside a gibibyte of memory over three grid times. -/
def steady : Workload ℚ :=
  { crowded with
    usage := { crowded.usage with ram := { allocation := [10, 20, 30].map (⟨·, 2 ^ 30⟩) } } }

/-- One of the two samples, and all of the memory. -/
def steadyHalf : Workload ℚ := { steady with usage.cpu := (crowdedHalf 11).usage.cpu }

theorem split_steady : steady.Split steadyHalf (crowdedHalf 12) where
  left := ⟨rfl, rfl, rfl, rfl, rfl, rfl, rfl, rfl⟩
  right := ⟨rfl, rfl, rfl, rfl, rfl, rfl, rfl, rfl⟩
  cpu := .refl _
  ram := .refl _
  gpu := .refl _
  claims := .nil
  network := .refl _

/-- In a bucket with another workload, the two samples are collapsed in any case, and beside the
memory they do not matter for the number of periods. -/
theorem report_split_instances :
    let beside : Inventory ℚ := Assoc.ofList [("a", crowded), ("b", neighbour)]
    let beside' : Inventory ℚ :=
      Assoc.ofList [("c", crowdedHalf 12), ("b", neighbour), ("a", crowdedHalf 11)]
    let alone : Inventory ℚ := Assoc.ofList [("a", steady)]
    let alone' : Inventory ℚ := Assoc.ofList [("a", steadyHalf), ("b", crowdedHalf 12)]
    let costs (inventory : Inventory ℚ) :=
      ((report inventory .namespaceName [] hourly).value.get? "shop").map Record.costs
    (∀ w ∈ beside.values ++ alone.values, w.OffOrigin) ∧
      KeepsLength .namespaceName [] hourly beside.values crowded ∧
      costs beside' = costs beside ∧ (costs beside).map Costs.cpu = some (5 / 2) ∧
      longestIn alone' .namespaceName [] hourly "shop" =
        longestIn alone .namespaceName [] hourly "shop" ∧
      costs alone' = costs alone ∧ (costs alone).map Costs.cpu = some (2 / 3) := by
  intro beside beside' alone alone' costs
  have hoff : ∀ w ∈ beside.values ++ alone.values, w.OffOrigin := by decide +kernel
  have hafter : beside'.entries.Perm
      [("a", crowdedHalf 11), ("c", crowdedHalf 12), ("b", neighbour)] :=
    (List.perm_append_comm : List.Perm ([("c", crowdedHalf 12), ("b", neighbour)] ++ _) _)
  have hkeep : KeepsLength .namespaceName [] hourly beside.values crowded := by
    intro key hbelongs x
    obtain ⟨-, hkey⟩ := belongs_iff.mp hbelongs
    obtain rfl : "shop" = key := Option.some.inj hkey
    cases x with
    | cpu => exact .inr (by decide +kernel)
    | ram => exact .inl (by decide +kernel)
    | gpu => exact .inl (by decide +kernel)
    | volume => exact .inl (by decide +kernel)
    | network => exact .inl (by decide +kernel)
  have hlongest : longestIn alone' .namespaceName [] hourly "shop" =
      longestIn alone .namespaceName [] hourly "shop" := by decide +kernel
  obtain ⟨-, hbeside, hsame⟩ := report_split beside beside' .namespaceName [] hourly (.refl _)
    hafter split_crowded fun w hw => hoff w (List.mem_append_left _ hw)
  obtain ⟨-, halone, -⟩ := report_split alone alone' .namespaceName [] hourly (.refl _) (.refl _)
    split_steady fun w hw => hoff w (List.mem_append_right _ hw)
  exact ⟨hoff, hkeep, hbeside "shop" (.inr (hsame hkeep "shop")), by decide +kernel, hlongest,
    halone "shop" (.inr hlongest), by decide +kernel⟩

/-- **The halves of a workload may cost twice as much.** Two samples of a core at one grid time, of
a workload that is alone in its bucket, make two hours, and cost one each. Split between two
workloads they make one hour, and cost two. -/
theorem report_split_crowded :
    let before : Inventory ℚ := Assoc.ofList [("a", crowded)]
    let after : Inventory ℚ := Assoc.ofList [("a", crowdedHalf 11), ("b", crowdedHalf 12)]
    crowded.Split (crowdedHalf 11) (crowdedHalf 12) ∧ (∀ w ∈ before.values, w.OffOrigin) ∧
      ((report before .namespaceName [] hourly).value.get? "shop").map (·.costs.cpu) = some 1 ∧
      ((report after .namespaceName [] hourly).value.get? "shop").map (·.costs.cpu) = some 2 :=
  ⟨split_crowded, by decide +kernel, by decide +kernel, by decide +kernel⟩

end Report

end Chargeback

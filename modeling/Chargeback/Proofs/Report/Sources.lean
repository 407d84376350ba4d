import Chargeback.Proofs.Idle.Sources
import Chargeback.Proofs.Report.Resources
import Chargeback.Proofs.Series.Related

/-!
# Buckets and the prices that count

A report prices every workload once and merges what it costs. When the workloads are repriced and
another price list is given, the pass goes through the same keys in the same order
(`inKeyOrder_repriced`) and puts every workload into the same bucket (`Workload.Repriced.belongs_eq`).
So a bucket stays the same if the prices that count do, for its own workloads and for the pooled ones.

Two resources are told apart further. The network has no price, and volumes have no discount, so the
cost of either over time only changes with what it depends on. Their costs are divided by the number
of periods, which is read off the times of all cost series, and those do not depend on any price
(`longest_repriced`).
-/

namespace Chargeback

variable {α : Type}

/-- The same report with another price list and another discount. -/
def ReportOptions.withPricing (o : ReportOptions α) (customPricing : Option CustomPricing)
    (discount : α) : ReportOptions α :=
  { o with terms := { o.terms with customPricing, discount } }

namespace Workload.Repriced

variable {w w' : Workload α} {o : ReportOptions α} {customPricing : Option CustomPricing}
  {discount : α}

theorem isPooled_eq (h : w.Repriced w') :
    (o.withPricing customPricing discount).isPooled w' = o.isPooled w := by
  rw [h.rest]
  rfl

theorem belongs_eq (h : w.Repriced w') (field : GroupField) (subfields : List String)
    (key : String) :
    Report.belongs field subfields (o.withPricing customPricing discount) key w' =
      Report.belongs field subfields o key w := by
  rw [h.rest]
  rfl

variable [Number α] {o : ReportOptions α} {discount : α}

/-- The repriced workload is corrected by the same idle coefficient. -/
theorem priced_eq (h : w.Repriced w') :
    (o.withPricing customPricing discount).priced w' =
      (w'.price (o.withPricing customPricing discount).terms
        (o.idleCoefficient w.cluster)).value := by
  rw [ReportOptions.priced, h.cluster_eq]
  rfl

/-- A workload costs the same if the prices that count are the same. -/
theorem priced_repriced (h : w.Repriced w')
    (hagree : w.PricesAgree o.terms.customPricing customPricing w') :
    (o.withPricing customPricing o.terms.discount).priced w' = o.priced w := by
  rw [h.priced_eq]
  exact hagree.value_price o.terms (o.withPricing customPricing o.terms.discount).terms h rfl rfl _

/-- The cost of the network is passed through. -/
theorem network_parts_eq (h : w.Repriced w') :
    ((o.withPricing customPricing discount).priced w').parts .network =
      (o.priced w).parts .network := by
  change [Priced.network _] = [Priced.network _]
  rw [h.priced_eq, network_price, ReportOptions.priced, network_price, h.network_eq]

/-- Volumes cost the same at any discount if the prices that count are the same. -/
theorem volume_parts_eq (h : w.Repriced w')
    (hagree : w.PricesAgree o.terms.customPricing customPricing w') :
    ((o.withPricing customPricing discount).priced w').parts .volume =
      (o.priced w).parts .volume := by
  change Priced.volumes _ = Priced.volumes _
  rw [h.priced_eq]
  exact hagree.volumes_price o.terms (o.withPricing customPricing discount).terms h rfl _

/-- Whatever a workload costs, it does so at the same times, resource by resource. -/
theorem related_parts (h : w.Repriced w') (x : Resource) :
    List.Forall₂ (Series.Related fun _ _ => True)
      (((o.withPricing customPricing discount).priced w').parts x) ((o.priced w).parts x) := by
  rw [h.priced_eq, ReportOptions.priced, Workload.value_price, Workload.value_price, h.usage_eq,
    h.network_eq]
  cases x with
  | cpu | ram | gpu => exact .cons (Tariff.related_price _ _ _) .nil
  | volume => exact h.related_volumeCosts _ _ _ _ _
  | network => exact .cons (.refl (fun _ => trivial) _) .nil

end Workload.Repriced

namespace Report

/-! ## The pass -/

/-- The entries of an inventory in the order of the pass. -/
def sorted (inventory : Inventory α) : List (String × Workload α) :=
  sortBy (fun a b => decide (a.1 < b.1)) inventory.entries

theorem mem_sorted {inventory : Inventory α} {e : String × Workload α} :
    e ∈ sorted inventory ↔ e ∈ inventory.entries := mem_sortBy

theorem inKeyOrder_repriced (inventory : Inventory α)
    (change : String → Workload α → Workload α) :
    inKeyOrder (inventory.mapWithName change) =
      (sorted inventory).map fun e => change e.1 e.2 := by
  have hsort : sortBy (fun a b => decide (a.1 < b.1)) (inventory.mapWithName change).entries =
      (sorted inventory).map fun e => (e.1, change e.1 e.2) := (map_sortBy (fun _ _ => rfl) _).symm
  rw [inKeyOrder, hsort, List.map_map]
  rfl

/-- The entries of a bucket, in the order of the pass. -/
def bucketEntries (inventory : Inventory α) (field : GroupField) (subfields : List String)
    (o : ReportOptions α) (key : String) : List (String × Workload α) :=
  (sorted inventory).filter fun e => belongs field subfields o key e.2

variable {inventory : Inventory α} {change : String → Workload α → Workload α} {field : GroupField}
  {subfields : List String} {o : ReportOptions α} {customPricing : Option CustomPricing}
  {discount : α} {key : String}

theorem mem_bucketEntries {e : String × Workload α} :
    e ∈ bucketEntries inventory field subfields o key ↔
      e ∈ inventory.entries ∧ belongs field subfields o key e.2 = true := by
  rw [bucketEntries, List.mem_filter, mem_sorted]

theorem filter_belongs_eq :
    (inKeyOrder inventory).filter (belongs field subfields o key) =
      (bucketEntries inventory field subfields o key).map Prod.snd := List.filter_map

/-- Every workload stays in its bucket. -/
theorem filter_belongs_repriced (h : inventory.RepricedBy change) :
    (inKeyOrder (inventory.mapWithName change)).filter
        (belongs field subfields (o.withPricing customPricing discount) key) =
      (bucketEntries inventory field subfields o key).map fun e => change e.1 e.2 := by
  rw [inKeyOrder_repriced, List.filter_map, bucketEntries]
  congr 1
  refine List.filter_congr fun e he => ?_
  exact (h e (mem_sorted.mp he)).belongs_eq field subfields key

variable [Number α]

theorem mem_names_report_iff_filter :
    key ∈ (report inventory field subfields o).value.names ↔
      (inKeyOrder inventory).filter (belongs field subfields o key) ≠ [] := by
  rw [mem_names_report_iff, ne_eq, List.filter_eq_nil_iff]
  simp only [← belongs_iff, not_forall, not_not, exists_prop]

/-- No key is lost and none is added. -/
theorem names_report_repriced (h : inventory.RepricedBy change) :
    (report (inventory.mapWithName change) field subfields
        (o.withPricing customPricing discount)).value.names =
      (report inventory field subfields o).value.names := by
  refine List.Pairwise.eq_of_mem_iff (Index.pairwise_names _) (Index.pairwise_names _) fun key => ?_
  rw [mem_names_report_iff_filter, mem_names_report_iff_filter, filter_belongs_repriced h,
    filter_belongs_eq, ne_eq, ne_eq, List.map_eq_nil_iff, List.map_eq_nil_iff]

/-- The pool stays the same if the prices that count for the pooled workloads do. -/
theorem pooledCost_repriced (h : inventory.RepricedBy change)
    (hagree : ∀ e ∈ inventory.entries, o.isPooled e.2 = true →
      e.2.PricesAgree o.terms.customPricing customPricing (change e.1 e.2)) :
    pooledCost (o.withPricing customPricing o.terms.discount)
        (inKeyOrder (inventory.mapWithName change)) =
      pooledCost o (inKeyOrder inventory) := by
  have hpooled : (sorted inventory).filter ((o.withPricing customPricing o.terms.discount).isPooled ∘
      fun e => change e.1 e.2) = (sorted inventory).filter (o.isPooled ∘ Prod.snd) :=
    List.filter_congr fun e he => (h e (mem_sorted.mp he)).isPooled_eq
  have horder : inKeyOrder inventory = (sorted inventory).map Prod.snd := rfl
  rw [pooledCost, pooledCost, inKeyOrder_repriced, horder, List.filter_map, List.filter_map, hpooled,
    List.foldl_map, List.foldl_map]
  refine List.foldl_ext _ _ _ fun pool e he => ?_
  obtain ⟨hmem, hpool⟩ := List.mem_filter.mp he
  have hmem := mem_sorted.mp hmem
  rw [(h e hmem).priced_repriced (hagree e hmem hpool)]

/-! ## One bucket -/

/-- A bucket gathers the same if the prices that count for its workloads are the same. -/
theorem gathered_repriced (h : inventory.RepricedBy change)
    (hagree : ∀ e ∈ inventory.entries, belongs field subfields o key e.2 = true →
      e.2.PricesAgree o.terms.customPricing customPricing (change e.1 e.2)) :
    gathered field subfields (o.withPricing customPricing o.terms.discount) key
        (inKeyOrder (inventory.mapWithName change)) =
      gathered field subfields o key (inKeyOrder inventory) := by
  rw [gathered, gathered, filter_belongs_repriced h, filter_belongs_eq, List.foldl_map,
    List.foldl_map]
  refine List.foldl_ext _ _ _ fun r e he => ?_
  obtain ⟨hmem, hbelongs⟩ := mem_bucketEntries.mp he
  rw [(h e hmem).priced_repriced (hagree e hmem hbelongs), Record.merge, Record.merge,
    (h e hmem).usage_eq, (h e hmem).cluster_eq]

/-- What the workloads of a bucket add to the cost of a resource. -/
theorem contributions_eq (x : Resource) :
    contributions field subfields o key (inKeyOrder inventory) x =
      (bucketEntries inventory field subfields o key).flatMap fun e => (o.priced e.2).parts x := by
  rw [contributions, filter_belongs_eq, List.flatMap_map]

theorem contributions_repriced (h : inventory.RepricedBy change) (x : Resource) :
    contributions field subfields (o.withPricing customPricing discount) key
        (inKeyOrder (inventory.mapWithName change)) x =
      (bucketEntries inventory field subfields o key).flatMap fun e =>
        ((o.withPricing customPricing discount).priced (change e.1 e.2)).parts x := by
  rw [contributions, filter_belongs_repriced h, List.flatMap_map]

/-- A cost series of a bucket stays the same if what its workloads add to it does. -/
theorem of_gathered_repriced (h : inventory.RepricedBy change) {x : Resource}
    (hparts : ∀ e ∈ inventory.entries, belongs field subfields o key e.2 = true →
      ((o.withPricing customPricing discount).priced (change e.1 e.2)).parts x =
        (o.priced e.2).parts x) :
    (gathered field subfields (o.withPricing customPricing discount) key
        (inKeyOrder (inventory.mapWithName change))).costSeries.of x =
      (gathered field subfields o key (inKeyOrder inventory)).costSeries.of x := by
  rw [of_gathered, of_gathered, contributions_repriced h, contributions_eq]
  congr 1
  refine List.flatMap_congr fun e he => ?_
  obtain ⟨hmem, hbelongs⟩ := mem_bucketEntries.mp he
  exact hparts e hmem hbelongs

/-- **The number of samples of a bucket** does not depend on prices. -/
theorem longest_repriced (h : inventory.RepricedBy change) :
    (gathered field subfields (o.withPricing customPricing discount) key
        (inKeyOrder (inventory.mapWithName change))).costSeries.longest =
      (gathered field subfields o key (inKeyOrder inventory)).costSeries.longest := by
  refine CostSeries.longest_congr fun x => ?_
  rw [of_gathered, of_gathered, contributions_repriced h, contributions_eq]
  have hentries : List.Forall₂ (fun e e' => e = e' ∧ e'.2.Repriced (change e'.1 e'.2))
      (bucketEntries inventory field subfields o key)
      (bucketEntries inventory field subfields o key) :=
    List.forall₂_same.mpr fun e he => ⟨rfl, h e (mem_bucketEntries.mp he).1⟩
  refine (Series.Related.accumulate (fun _ _ => trivial) (R := fun _ _ => True)
    (List.rel_flatMap hentries ?_)).length_eq
  rintro e _ ⟨rfl, he⟩
  exact he.related_parts x

/-- A resource costs the same in a bucket if what the workloads of the bucket add to it is the
same, even if the share of the pool is not. -/
theorem cost_repriced (h : inventory.RepricedBy change) {x : Resource}
    (hparts : ∀ e ∈ inventory.entries, belongs field subfields o key e.2 = true →
      ((o.withPricing customPricing discount).priced (change e.1 e.2)).parts x =
        (o.priced e.2).parts x) {r r' : Record α}
    (hr : (report inventory field subfields o).value.get? key = some r)
    (hr' : (report (inventory.mapWithName change) field subfields
      (o.withPricing customPricing discount)).value.get? key = some r') :
    r'.costSeries.of x = r.costSeries.of x ∧ r'.costs.of x = r.costs.of x := by
  rw [eq_of_get?_report hr, eq_of_get?_report hr']
  exact Record.of_finalize_congr _ _ rfl (congrArg o.periods? (longest_repriced h))
    (of_gathered_repriced h hparts)

/-! ## The report -/

/-- **Buckets and the prices that count.** However the workloads of an inventory are repriced, and
whatever price list is given, a report has the same keys. The bucket of a key stays the same if the
prices that count for its workloads and for the pooled ones do. Even with another discount, the cost
of its network does, and that of its volumes if the prices that count for its workloads do. -/
theorem report_sources (h : inventory.RepricedBy change) (field : GroupField)
    (subfields : List String) (o : ReportOptions α) (customPricing : Option CustomPricing) :
    let before := (report inventory field subfields o).value
    let after (discount : α) := (report (inventory.mapWithName change) field subfields
      (o.withPricing customPricing discount)).value
    let Agrees (e : String × Workload α) :=
      e.2.PricesAgree o.terms.customPricing customPricing (change e.1 e.2)
    (∀ discount, (after discount).names = before.names) ∧
    (∀ key, (∀ e ∈ inventory.entries,
        belongs field subfields o key e.2 = true ∨ o.isPooled e.2 = true → Agrees e) →
      (after o.terms.discount).get? key = before.get? key) ∧
    ∀ discount key r r', before.get? key = some r → (after discount).get? key = some r' →
      (r'.costSeries.network = r.costSeries.network ∧ r'.costs.network = r.costs.network) ∧
      ((∀ e ∈ inventory.entries, belongs field subfields o key e.2 = true → Agrees e) →
        r'.costSeries.volume = r.costSeries.volume ∧ r'.costs.volume = r.costs.volume) := by
  intro before after Agrees
  have hnames (discount : α) : (after discount).names = before.names := names_report_repriced h
  refine ⟨hnames, fun key hagree => ?_, fun discount key r r' hr hr' => ⟨?_, fun hagree => ?_⟩⟩
  · have hsize : (after o.terms.discount).size = before.size := by
      simpa [Index.names, Index.size] using congrArg List.length (hnames o.terms.discount)
    by_cases hkey : key ∈ before.names
    · have hbefore : before.get? key = _ := get?_report hkey
      have hafter : (after o.terms.discount).get? key = _ := get?_report (hnames _ ▸ hkey)
      rw [hbefore, hafter, gathered_repriced h fun e he hbelongs => hagree e he (.inl hbelongs),
        pooledCost_repriced h fun e he hpool => hagree e he (.inr hpool)]
      -- finalizing does not read the price list
      exact congrArg (fun n => some (Record.finalize _ (_ / Number.ofNat n) o)) hsize
    · rw [Index.get?_eq_none_iff.mpr hkey, Index.get?_eq_none_iff.mpr (hnames _ ▸ hkey)]
  · exact cost_repriced h (fun e he _ => (h e he).network_parts_eq) hr hr'
  · exact cost_repriced h (fun e he hbelongs => (h e he).volume_parts_eq (hagree e he hbelongs))
      hr hr'

end Report

/-! ## All of it -/

/-- **Sources of prices do not leak into each other.** Let two workloads differ in what is said of
their nodes and claims only, and let the prices that count for them be the same: with an enabled
price list, its prices for the tier of the node, and without one, the three prices of the node and
those of the bound volumes. Then they cost the same at every cadence, discount and idle coefficient.
The discount does not enter into the cost of volumes, each bound volume has a cost series and no
other has, and the cost of the network is passed through.

The same goes for a whole inventory, however its workloads are repriced. An estimation fails in the
same cases, and finds the same coefficient of a cluster if the prices that count for its workloads
are the same. A report has the same keys, and the same bucket under a key if the prices that count
for the workloads of the bucket and for the pooled ones are the same. At another discount the cost of
the bucket's network is the same, and that of its volumes if the prices that count for the workloads
of the bucket are. -/
theorem pricing_sources [Number α] (customPricing customPricing' : Option CustomPricing) :
    (∀ (w w' : Workload α) (cadence : Cadence) (discount idleCoefficient : α),
      w.Repriced w' → w.PricesAgree customPricing customPricing' w' →
      (w'.price { cadence, discount, customPricing := customPricing' } idleCoefficient).value =
        (w.price { cadence, discount, customPricing } idleCoefficient).value) ∧
    (∀ (w : Workload α) (terms : Terms α) (discount' idleCoefficient : α),
      let priced := (w.price terms idleCoefficient).value
      (w.price { terms with discount := discount' } idleCoefficient).value.volumes =
          priced.volumes ∧
        priced.volumes.length = w.claims.countP (fun c => c.volume.isSome) ∧
        priced.network = w.network) ∧
    ∀ (inventory : Inventory α) (change : String → Workload α → Workload α),
      inventory.RepricedBy change →
      let inventory' := inventory.mapWithName change
      let Agrees (e : String × Workload α) :=
        e.2.PricesAgree customPricing customPricing' (change e.1 e.2)
      (∀ (source : BillingSource) (discount : α) (window : String) (offset : Option String),
        let run := (idleCoefficients inventory source customPricing discount window offset).run.value
        let run' :=
          (idleCoefficients inventory' source customPricing' discount window offset).run.value
        (∀ e, run' = .error e ↔ run = .error e) ∧
          ∀ found found', run = .ok found → run' = .ok found' →
            found'.names = found.names ∧
              ∀ c, (∀ e ∈ inventory.entries, e.2.cluster = c → Agrees e) →
                found'.get? c = found.get? c) ∧
      ∀ (field : GroupField) (subfields : List String) (o : ReportOptions α) (discount : α),
        let before := (report inventory field subfields
          (o.withPricing customPricing discount)).value
        let after (discount : α) := (report inventory' field subfields
          (o.withPricing customPricing' discount)).value
        let Belongs (key : String) (e : String × Workload α) :=
          Report.belongs field subfields o key e.2 = true
        (∀ discount', (after discount').names = before.names) ∧
        (∀ key, (∀ e ∈ inventory.entries, Belongs key e ∨ o.isPooled e.2 = true → Agrees e) →
          (after discount).get? key = before.get? key) ∧
        ∀ discount' key r r', before.get? key = some r → (after discount').get? key = some r' →
          (r'.costSeries.network = r.costSeries.network ∧ r'.costs.network = r.costs.network) ∧
          ((∀ e ∈ inventory.entries, Belongs key e → Agrees e) →
            r'.costSeries.volume = r.costSeries.volume ∧ r'.costs.volume = r.costs.volume) := by
  refine ⟨fun w w' cadence discount idleCoefficient h hagree => ?_,
    fun w terms discount' idleCoefficient =>
      ⟨?_, length_volumes_price w terms idleCoefficient, network_price w terms idleCoefficient⟩,
    fun inventory change h => ⟨fun source discount window offset => ?_,
      fun field subfields o discount => ?_⟩⟩
  · exact hagree.value_price { cadence, discount, customPricing }
      { cadence, discount, customPricing := customPricing' } h rfl rfl idleCoefficient
  · exact (Workload.PricesAgree.refl terms.customPricing w).volumes_price terms
      { terms with discount := discount' } (.refl w) rfl idleCoefficient
  · exact idleCoefficients_sources h customPricing customPricing' source discount window offset
  · exact Report.report_sources h field subfields (o.withPricing customPricing discount)
      customPricing'

/-- A price list on which spot cores cost one, and others what is given. -/
def tierPrices (onDemand : String) : CustomPricing where
  enabled := true
  cpu := onDemand
  spotCpu := "1"

/-- A workload on a spot node, and one on a node that is paid by the hour. -/
def tierInventory : Inventory Float where
  entries :=
    [("a", { namespaceName := "batch", cluster := "east", node := { usageType := "Spot" },
             usage := { cpu := { allocation := [⟨10, 2⟩] } } }),
      ("b", { namespaceName := "shop", cluster := "west", node := { usageType := "ondemand" },
              usage := { cpu := { allocation := [⟨10, 2⟩] } } })]
  nodup := by decide

/-- Other prices of all nodes, and other names for their tiers. -/
def renamedTiers (_ : String) (w : Workload Float) : Workload Float :=
  { w with
    node := { usageType := if w.node.isSpot then "PREEMPTIBLE" else "", vcpuCost := "7",
              storageCost := "?" } }

def tierOptions : ReportOptions Float where
  terms := { discount := 0 }

/-- The bill of a month, of which an hour costs one. -/
def tierBill : ClusterTotals where
  cpu := [⟨"0", "730"⟩]
  memory := [⟨"0", "0"⟩]
  storage := [⟨"0", "0"⟩]

/-- The cores that are not spot become dearer, and only they. -/
theorem pricing_sources_tiers :
    let after := tierInventory.mapWithName renamedTiers
    let coefficients (inventory : Inventory Float) (onDemand : String) :=
      (idleCoefficients inventory
        (fun _ _ => .ok (Assoc.ofList [("east", tierBill), ("west", tierBill)]))
        (some (tierPrices onDemand)) 0 "1h" none).run.value
    let records (inventory : Inventory Float) (onDemand : String) :=
      (report inventory .namespaceName []
        (tierOptions.withPricing (some (tierPrices onDemand)) 0)).value
    tierInventory.RepricedBy renamedTiers ∧
      (∃ found found', coefficients tierInventory "3" = .ok found ∧
        coefficients after "5" = .ok found' ∧ found'.get? "east" = found.get? "east" ∧
        found'.get? "west" ≠ found.get? "west") ∧
      (records after "5").get? "batch" = (records tierInventory "3").get? "batch" ∧
      ((records tierInventory "3").get? "shop").map (fun r => r.costs.total) = some 6 ∧
      ((records after "5").get? "shop").map (fun r => r.costs.total) = some 10 := by
  intro after coefficients records
  have h : tierInventory.RepricedBy renamedTiers := fun e _ => ⟨rfl, rfl⟩
  -- the prices of spot cores agree, and there is one spot node
  have hspot {e : String × Workload Float} (he : e ∈ tierInventory.entries)
      (hnode : e.2.node.isSpot = true) :
      e.2.PricesAgree (some (tierPrices "3")) (some (tierPrices "5")) (renamedTiers e.1 e.2) := by
    refine .listed rfl rfl ?_ ?_
    · rw [hnode]
      simp only [renamedTiers, hnode, if_true]
      decide +kernel
    · rw [hnode]
      rfl
  have heast : ∀ e ∈ tierInventory.entries, e.2.cluster = "east" → e.2.node.isSpot = true := by
    decide +kernel
  have hbatch : ∀ e ∈ tierInventory.entries,
      Report.belongs .namespaceName [] tierOptions "batch" e.2 = true ∨
        tierOptions.isPooled e.2 = true → e.2.node.isSpot = true := by
    decide +kernel
  obtain ⟨hidle, hreport⟩ := (pricing_sources (some (tierPrices "3"))
    (some (tierPrices "5"))).2.2 tierInventory renamedTiers h
  obtain ⟨found, hfound, -, hget⟩ := exists_eq_ok_of_entries
    (show (coefficients tierInventory "3").toOption.map Index.entries =
      some [("east", 2), ("west", 6)] by decide +kernel)
  obtain ⟨found', hfound', -, hget'⟩ := exists_eq_ok_of_entries
    (show (coefficients after "5").toOption.map Index.entries =
      some [("east", 2), ("west", 10)] by decide +kernel)
  refine ⟨h, ⟨found, found', hfound, hfound', ?_, ?_⟩, ?_, by decide +kernel, by decide +kernel⟩
  · exact ((hidle _ 0 "1h" none).2 found found' hfound hfound').2 "east"
      fun e he hcluster => hspot he (heast e he hcluster)
  · rw [hget, hget']
    decide +kernel
  · exact (hreport .namespaceName [] tierOptions 0).2.1 "batch"
      fun e he hkey => hspot he (hbatch e he hkey)

end Chargeback

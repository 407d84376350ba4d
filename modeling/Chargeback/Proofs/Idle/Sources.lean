import Chargeback.Proofs.Idle.Locality
import Chargeback.Proofs.Names
import Chargeback.Proofs.Pricing.Sources

/-!
# Coefficients and the prices that count

An estimation prices every workload, so a change of prices that do not count for a workload cannot
show in a coefficient either. If all workloads of an inventory are repriced (`Inventory.RepricedBy`),
the estimation fails as before and finds coefficients of the same clusters; and the coefficient of a
cluster is the same as long as the prices that count for its own workloads are
(`idleCoefficients_sources`).
-/

namespace Chargeback

variable {α : Type}

/-- Every workload of the inventory is repriced by the change, which may depend on its key. -/
def Inventory.RepricedBy (inventory : Inventory α) (change : String → Workload α → Workload α) :
    Prop :=
  ∀ e ∈ inventory.entries, e.2.Repriced (change e.1 e.2)

variable {inventory : Inventory α} {change : String → Workload α → Workload α}

namespace Inventory

/-- The entries of a cluster. -/
def ownEntries (inventory : Inventory α) (cluster : String) : List (String × Workload α) :=
  inventory.entries.filter fun e => e.2.cluster == cluster

theorem own_eq (inventory : Inventory α) (cluster : String) :
    inventory.own cluster = (inventory.ownEntries cluster).map Prod.snd := List.filter_map

theorem RepricedBy.own_eq (h : inventory.RepricedBy change) (cluster : String) :
    own (inventory.mapWithName change) cluster =
      (inventory.ownEntries cluster).map fun e => change e.1 e.2 := by
  rw [own, Assoc.values_mapWithName, List.filter_map, ownEntries]
  congr 1
  refine List.filter_congr fun e he => ?_
  rw [Function.comp_apply, (h e he).cluster_eq]

theorem RepricedBy.sameClusters (h : inventory.RepricedBy change) :
    inventory.SameClusters (inventory.mapWithName change) := by
  intro c
  have hclusters : (inventory.mapWithName change).values.map Workload.cluster =
      inventory.values.map Workload.cluster := by
    rw [Assoc.values_mapWithName, Assoc.values, List.map_map, List.map_map]
    exact List.map_congr_left fun e he => (h e he).cluster_eq
  rw [hclusters]

end Inventory

variable [Number α] {customPricing customPricing' : Option CustomPricing} {discount : α}

/-- The observed cost of a cluster does not change with prices that do not count for it. -/
theorem observedOn_repriced (h : inventory.RepricedBy change) {c : String}
    (hagree : ∀ e ∈ inventory.entries, e.2.cluster = c →
      e.2.PricesAgree customPricing customPricing' (change e.1 e.2)) :
    observedOn (Inventory.own (inventory.mapWithName change) c)
        { cadence := .cumulative, discount, customPricing := customPricing' } =
      observedOn (inventory.own c) { cadence := .cumulative, discount, customPricing } := by
  rw [observedOn, observedOn, h.own_eq, Inventory.own_eq, List.map_map, List.map_map]
  congr 1
  refine List.map_congr_left fun e he => ?_
  obtain ⟨hmem, hcluster⟩ := List.mem_filter.mp he
  have hprice := Workload.PricesAgree.value_price
    { cadence := .cumulative, discount, customPricing }
    { cadence := .cumulative, discount, customPricing := customPricing' }
    (hagree e hmem (beq_iff_eq.mp hcluster)) (h e hmem) rfl rfl 1
  exact congrArg Priced.resourceTotal hprice

/-- **Coefficients and the prices that count.** However the workloads of an inventory are repriced,
and whatever price list is given, an estimation fails in the same cases and finds coefficients of
the same clusters. The coefficient of a cluster stays the same if the prices that count for its own
workloads do. -/
theorem idleCoefficients_sources (h : inventory.RepricedBy change)
    (customPricing customPricing' : Option CustomPricing) (source : BillingSource) (discount : α)
    (window : String) (offset : Option String) :
    let run := idleCoefficients inventory source customPricing discount window offset |>.run
    let run' := idleCoefficients (inventory.mapWithName change) source customPricing' discount
      window offset |>.run
    (∀ e, run'.value = .error e ↔ run.value = .error e) ∧
      ∀ found found', run.value = .ok found → run'.value = .ok found' →
        found'.names = found.names ∧
          ∀ c, (∀ e ∈ inventory.entries, e.2.cluster = c →
              e.2.PricesAgree customPricing customPricing' (change e.1 e.2)) →
            found'.get? c = found.get? c := by
  intro run run'
  have hclusters := h.sameClusters
  refine ⟨value_eq_error_iff_of_clusters hclusters, fun found found' hfound hfound' =>
    ⟨names_of_clusters hclusters hfound hfound', fun c hagree => ?_⟩⟩
  exact get?_of_observed hclusters hfound hfound' (observedOn_repriced h hagree)

end Chargeback

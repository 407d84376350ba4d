import Mathlib.Data.List.Permutation
import Mathlib.Data.List.Sort
import Chargeback.Proofs.Idle.Locality
import Chargeback.Proofs.Number.Addition

/-!
# When the order of the entries does not matter

An estimation adds up the costs of a cluster's workloads in the order in which the inventory lists
them. How it fails, and of which clusters it finds a coefficient, does not depend on that order; the
coefficient of a cluster does through the sum of its costs only (`get?_of_perm`). So it is the same
in any order wherever the costs add up to the same in any order (`AddsAlike`): for any two workloads,
for costs that are added up without rounding, and always in exact arithmetic.
-/

namespace Chargeback

section

variable {α : Type} [Number α]

/-- The numbers add up to the same in any order. -/
def AddsAlike (xs : List α) : Prop := ∀ ys : List α, ys.Perm xs → Number.sum ys = Number.sum xs

/-- The costs of the workloads of a cluster without idle correction, in the order of the
inventory. -/
def Inventory.costs (inventory : Inventory α) (terms : Terms α) (cluster : String) : List α :=
  (inventory.own cluster).map fun w => (w.price terms 1).value.resourceTotal

variable {inventory inventory' : Inventory α}

omit [Number α] in
theorem Inventory.own_perm (hperm : inventory'.entries.Perm inventory.entries) (cluster : String) :
    (inventory'.own cluster).Perm (inventory.own cluster) := (hperm.map _).filter _

omit [Number α] in
theorem Inventory.sameClusters_of_perm (hperm : inventory'.entries.Perm inventory.entries) :
    inventory.SameClusters inventory' := fun _ => ((hperm.map _).map _).mem_iff

variable (source : BillingSource) (customPricing : Option CustomPricing) (discount : α)
  (window : String) (offset : Option String)

/-- **How an estimation fails** does not depend on the order of the entries. -/
theorem value_eq_error_iff_of_perm (hperm : inventory'.entries.Perm inventory.entries) (e : Fault) :
    (idleCoefficients inventory' source customPricing discount window offset).run.value = .error e ↔
      (idleCoefficients inventory source customPricing discount window offset).run.value =
        .error e :=
  value_eq_error_iff_of_clusters (Inventory.sameClusters_of_perm hperm) e

variable {source customPricing discount window offset} {found found' : Index α}

/-- The clusters with a coefficient do not depend on the order of the entries. -/
theorem names_of_perm (hperm : inventory'.entries.Perm inventory.entries)
    (h : (idleCoefficients inventory source customPricing discount window offset).run.value =
      .ok found)
    (h' : (idleCoefficients inventory' source customPricing discount window offset).run.value =
      .ok found') : found'.names = found.names :=
  names_of_clusters (Inventory.sameClusters_of_perm hperm) h h'

/-- **The coefficient of a cluster** is the same in any order if the costs of its workloads add up to
the same. -/
theorem get?_of_perm (hperm : inventory'.entries.Perm inventory.entries)
    (h : (idleCoefficients inventory source customPricing discount window offset).run.value =
      .ok found)
    (h' : (idleCoefficients inventory' source customPricing discount window offset).run.value =
      .ok found') {c : String}
    (hcosts : AddsAlike (inventory.costs { cadence := .cumulative, discount, customPricing } c)) :
    found'.get? c = found.get? c :=
  get?_of_observed (Inventory.sameClusters_of_perm hperm) h h'
    (hcosts _ ((Inventory.own_perm hperm c).map _))

end

/-! ## What adds up alike -/

/-- In exact arithmetic, everything adds up alike. -/
theorem addsAlike_exact (xs : List ℚ) : AddsAlike xs := by
  intro ys hperm
  rw [Exact.sum_eq, Exact.sum_eq, hperm.sum_eq]

theorem addsAlike_of_length_le {xs : List Float} (h : xs.length ≤ 2) : AddsAlike xs := by
  intro ys hperm
  match xs, h with
  | [], _ => rw [hperm.eq_nil]
  | [x], _ => rw [hperm.eq_singleton]
  | [x, y], _ =>
    rcases List.perm_pair.mp hperm with rfl | rfl
    · rfl
    · exact Binary64.sum_pair_comm y x

theorem addsAlike_of_onGrid {k : ℤ} {xs : List Float} (h : Binary64.OnGrid k xs) : AddsAlike xs :=
  fun _ hperm => h.sum_perm hperm

/-! ## Binary64 -/

/-- **When the order of the entries does not matter.** Two estimations in binary64 of the same entries
in different orders fail alike, and find coefficients of the same clusters. They agree to the bit on
every cluster whose workloads' costs add up to the same in any order: so on all clusters with at most
two workloads, and on all whose costs are added up without rounding. -/
theorem idleCoefficients_of_perm (inventory inventory' : Inventory Float)
    (hperm : inventory'.entries.Perm inventory.entries) (source : BillingSource)
    (customPricing : Option CustomPricing) (discount : Float) (window : String)
    (offset : Option String) :
    let run := fun i : Inventory Float =>
      (idleCoefficients i source customPricing discount window offset).run.value
    let costs := inventory.costs { cadence := .cumulative, discount, customPricing }
    (∀ e, run inventory' = .error e ↔ run inventory = .error e) ∧
    (∀ found found', run inventory = .ok found → run inventory' = .ok found' →
      found'.names = found.names ∧
        ∀ c, AddsAlike (costs c) → found'.get? c = found.get? c) ∧
    (∀ c, (inventory.own c).length ≤ 2 → AddsAlike (costs c)) ∧
    ∀ k c, Binary64.OnGrid k (costs c) → AddsAlike (costs c) := by
  intro run costs
  refine ⟨value_eq_error_iff_of_perm source customPricing discount window offset hperm,
    fun found found' h h' => ⟨names_of_perm hperm h h', fun c => get?_of_perm hperm h h'⟩,
    fun c hc => ?_, fun k c => addsAlike_of_onGrid⟩
  have hlength : (costs c).length = (inventory.own c).length := List.length_map _
  exact addsAlike_of_length_le (hlength ▸ hc)

/-- Three workloads of one cluster, of one core each. -/
def threeWorkloads (first second third : String) : List (String × Workload Float) :=
  let workload (price : String) : Workload Float :=
    { cluster := "east", node := { vcpuCost := price },
      usage := { cpu := { allocation := [⟨10, 1⟩] } } }
  [("a", workload first), ("b", workload second), ("c", workload third)]

def threeInventory (first second third : String) : Inventory Float where
  entries := threeWorkloads first second third
  nodup := by simp [threeWorkloads]

/-- The same workloads, listed the other way round. -/
def threeReversed (first second third : String) : Inventory Float where
  entries := (threeWorkloads first second third).reverse
  nodup := by simp [threeWorkloads]

/-- The estimation of an hour of which one is billed. -/
def hourEstimation (inventory : Inventory Float) : EstimateM Float (Index Float) :=
  idleCoefficients inventory (fun _ _ => .ok (Assoc.ofList
    [("east", { cpu := [⟨"0", "730"⟩], memory := [⟨"0", "0"⟩], storage := [⟨"0", "0"⟩] })])) none 0
    "1h" none

/-- Costs of four, two and one are added up without rounding. -/
theorem idleCoefficients_of_perm_whole :
    ∃ found found', (threeReversed "4" "2" "1").entries.Perm (threeInventory "4" "2" "1").entries ∧
      (hourEstimation (threeInventory "4" "2" "1")).run.value = .ok found ∧
      (hourEstimation (threeReversed "4" "2" "1")).run.value = .ok found' ∧
      found'.get? "east" = found.get? "east" := by
  have hperm : (threeReversed "4" "2" "1").entries.Perm (threeInventory "4" "2" "1").entries :=
    List.reverse_perm _
  obtain ⟨found, hfound⟩ : ∃ found,
      (hourEstimation (threeInventory "4" "2" "1")).run.value = .ok found :=
    exists_eq_ok_of_isSome (by decide +kernel)
  obtain ⟨found', hfound'⟩ : ∃ found',
      (hourEstimation (threeReversed "4" "2" "1")).run.value = .ok found' :=
    exists_eq_ok_of_isSome (by decide +kernel)
  have hcosts : (threeInventory "4" "2" "1").costs
      { cadence := .cumulative, discount := 0, customPricing := none } "east" = [4, 2, 1] := by
    decide +kernel
  have hgrid : Binary64.OnGrid 0 [4, 2, 1] :=
    { least := by decide
      greatest := by decide
      multiples := by
        simp only [List.mem_cons, List.not_mem_nil, or_false, forall_eq_or_imp, forall_eq]
        exact ⟨⟨2 ^ 52, -50, rfl, 4, by norm_num⟩, ⟨2 ^ 52, -51, rfl, 2, by norm_num⟩,
          ⟨2 ^ 52, -52, rfl, 1, by norm_num⟩⟩
      fits := by decide +kernel }
  obtain ⟨-, hfinds, -, hwhole⟩ := idleCoefficients_of_perm _ _ hperm _ none 0 "1h" none
  have halike := hwhole 0 "east" (hcosts ▸ hgrid)
  exact ⟨found, found', hperm, hfound, hfound',
    (hfinds found found' hfound hfound').2 "east" halike⟩

/-- **An order that matters**: the two ones are lost if they are added to the great cost one after
the other, and not if they are added up first. -/
theorem idleCoefficients_of_perm_rounded :
    ∃ found found',
      (threeReversed "9007199254740992" "1" "1").entries.Perm
        (threeInventory "9007199254740992" "1" "1").entries ∧
      (hourEstimation (threeInventory "9007199254740992" "1" "1")).run.value = .ok found ∧
      (hourEstimation (threeReversed "9007199254740992" "1" "1")).run.value = .ok found' ∧
      found.get? "east" = some 9007199254740992 ∧ found'.get? "east" = some 9007199254740994 ∧
      found'.get? "east" ≠ found.get? "east" := by
  obtain ⟨found, hfound, -, hget⟩ := exists_eq_ok_of_entries
    (show (hourEstimation (threeInventory "9007199254740992" "1" "1")).run.value.toOption.map
      Index.entries = some [("east", 9007199254740992)] by decide +kernel)
  obtain ⟨found', hfound', -, hget'⟩ := exists_eq_ok_of_entries
    (show (hourEstimation (threeReversed "9007199254740992" "1" "1")).run.value.toOption.map
      Index.entries = some [("east", 9007199254740994)] by decide +kernel)
  refine ⟨found, found', List.reverse_perm _, hfound, hfound', hget "east", hget' "east", ?_⟩
  rw [hget, hget']
  decide +kernel

end Chargeback

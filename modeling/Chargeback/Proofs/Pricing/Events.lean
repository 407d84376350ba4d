import Chargeback.Pricing.Priced

/-!
# What pricing reports

Pricing a workload reads the texts of its prices in a fixed order (`Workload.prices`): the four unit
prices of the tier that applies on its node and, unless a price list of the caller's own is enabled,
the price of each bound volume. It reports those that cannot be read, in that order, and nothing
else (`Workload.journal_price`).
-/

namespace Chargeback

variable {α β γ : Type}

/-- Malformed prices are all that is reported. -/
def Journaled.Complains (x : Journaled (Effect α) β) : Prop :=
  ∀ e ∈ x.journal, ∃ price defect, e = .event (.malformedPrice price defect)

namespace Journaled.Complains

theorem of_pure (b : β) : Complains (α := α) (pure b) := by
  intro e he
  simp at he

theorem bind {x : Journaled (Effect α) β} {f : β → Journaled (Effect α) γ} (hx : x.Complains)
    (hf : (f x.value).Complains) : (x >>= f).Complains := by
  intro e he
  rw [journal_bind, List.mem_append] at he
  rcases he with he | he
  · exact hx e he
  · exact hf e he

end Journaled.Complains

/-! ## The prices of a workload -/

/-- The texts of the unit prices that apply on a node: cores, memory, GPUs and storage. -/
def Node.prices (node : Node) (custom : Option CustomPricing) : List String :=
  match enabledPricing custom with
  | some list =>
    if node.isSpot then [list.spotCpu, list.spotRam, list.spotGpu, list.storage]
    else [list.cpu, list.ram, list.gpu, list.storage]
  | none => [node.vcpuCost, node.ramCost, node.gpuCost, node.storageCost]

/-- The texts of the prices of the bound volumes among the claims. An enabled price list is read in
their place. -/
def volumePrices (custom : Option CustomPricing) (claims : List (Claim α)) : List String :=
  match enabledPricing custom with
  | some _ => []
  | none => claims.filterMap fun c => c.volume.map Volume.cost

/-- The texts of all prices that a workload is priced by, in the order in which they are read. -/
def Workload.prices (w : Workload α) (custom : Option CustomPricing) : List String :=
  w.node.prices custom ++ volumePrices custom w.claims

/-- The event of a price that is neither empty nor a numeral. -/
def malformedPrice? (price : String) : Option (Event α) :=
  if price = "" then none
  else
    match Numeral.read price with
    | .ok _ => none
    | .error defect => some (.malformedPrice price defect)

/-- The events of the prices that cannot be read. -/
def malformedPrices (prices : List String) : List (Event α) := prices.filterMap malformedPrice?

theorem malformedPrices_append (prices prices' : List String) :
    malformedPrices (α := α) (prices ++ prices') =
      malformedPrices prices ++ malformedPrices prices' := List.filterMap_append

theorem malformedPrices_cons (price : String) (prices : List String) :
    malformedPrices (α := α) (price :: prices) =
      malformedPrices [price] ++ malformedPrices prices :=
  malformedPrices_append [price] prices

/-- A malformed price is told with its text and its defect. -/
theorem exists_of_mem_malformedPrices {prices : List String} {event : Event α}
    (h : event ∈ malformedPrices prices) :
    ∃ price defect, event = .malformedPrice price defect := by
  obtain ⟨price, -, hprice⟩ := List.mem_filterMap.mp h
  unfold malformedPrice? at hprice
  split at hprice
  · cases hprice
  · split at hprice
    · cases hprice
    · exact ⟨price, _, (Option.some.inj hprice).symm⟩

/-! ## What is reported -/

section Reading

variable [Number α]

open Journaled

theorem journal_readPrice (price : String) :
    (readPrice (α := α) price).journal = (malformedPrices [price]).map .event := by
  unfold readPrice malformedPrices malformedPrice?
  by_cases hne : price = ""
  · subst hne
    rfl
  · have hempty : Numeral.read price ≠ .error .empty := mt Numeral.read_eq_error_empty_iff.mp hne
    cases hread : Numeral.read price with
    | ok n => simp [hne, hread]
    | error defect =>
      cases defect with
      | empty => exact absurd hread hempty
      | malformed => simp [hne, hread]

namespace UnitPrices

theorem journal_read (cpu ram gpu storage : String) :
    (read (α := α) cpu ram gpu storage).journal =
      (malformedPrices [cpu, ram, gpu, storage]).map .event := by
  rw [malformedPrices_cons cpu, malformedPrices_cons ram, malformedPrices_cons gpu]
  simp only [read, journal_bind, journal_pure, journal_readPrice, List.map_append, List.append_nil]

theorem journal_select (node : Node) (custom : Option CustomPricing) :
    (select (α := α) node custom).journal = (malformedPrices (node.prices custom)).map .event := by
  unfold select Node.prices
  cases enabledPricing custom with
  | none => exact journal_read _ _ _ _
  | some list =>
    dsimp only
    split
    · exact journal_read _ _ _ _
    · exact journal_read _ _ _ _

end UnitPrices

theorem journal_priceClaims (terms : Terms α) (prices : UnitPrices α) (idleCoefficient : α)
    (claims : List (Claim α)) :
    (priceClaims terms prices idleCoefficient claims).journal =
      (malformedPrices (volumePrices terms.customPricing claims)).map .event := by
  unfold volumePrices
  induction claims with
  | nil => cases enabledPricing terms.customPricing <;> rfl
  | cons c claims ih =>
    unfold priceClaims
    cases hvolume : c.volume with
    | none =>
      rw [ih]
      cases enabledPricing terms.customPricing with
      | some list => rfl
      | none => rw [List.filterMap_cons_none (by rw [hvolume]; rfl)]
    | some v =>
      simp only [journal_bind, journal_pure, List.append_nil, ih, Volume.unitPrice]
      cases enabledPricing terms.customPricing with
      | some list => rfl
      | none =>
        rw [List.filterMap_cons_some (by rw [hvolume]; rfl), malformedPrices_cons, List.map_append,
          ← journal_readPrice]

/-- **Pricing reports the prices that cannot be read**, in the order in which they are read. -/
theorem Workload.journal_price (w : Workload α) (terms : Terms α) (idleCoefficient : α) :
    (w.price terms idleCoefficient).journal =
      (malformedPrices (w.prices terms.customPricing)).map .event := by
  simp only [price, journal_bind, journal_pure, List.append_nil, UnitPrices.journal_select,
    journal_priceClaims, prices, malformedPrices_append, List.map_append]

/-- Pricing reports malformed prices, and nothing else. -/
theorem Workload.complains_price (w : Workload α) (terms : Terms α) (idleCoefficient : α) :
    (w.price terms idleCoefficient).Complains := by
  intro e he
  rw [journal_price] at he
  obtain ⟨event, hevent, rfl⟩ := List.mem_map.mp he
  obtain ⟨price, defect, rfl⟩ := exists_of_mem_malformedPrices hevent
  exact ⟨price, defect, rfl⟩

end Reading

end Chargeback

import Chargeback.Proofs.Pricing.Scaling

/-!
# Where prices come from

A workload is priced by the texts of one source. With an enabled price list these are the texts of
the list for the tier of the node (`CustomPricing.tier`), and of the node itself only the tier
counts; without one they are three prices of the node and those of the bound volumes. Two workloads
that differ only in their node and in what is said of their claims (`Workload.Repriced`) cost the
same as soon as the source that counts agrees on them (`Workload.PricesAgree.value_price`).

A discount does not enter into the cost of volumes at all (`Workload.PricesAgree.volumes_price`).
-/

namespace Chargeback

variable {α : Type}

/-- The price and the amounts of each bound volume among the claims. -/
def boundStorage (claims : List (Claim α)) : List (String × Series α) :=
  claims.filterMap fun c => c.volume.map fun v => (v.cost, c.requested)

/-- The prices of a price list for spot nodes, or for all others. -/
def CustomPricing.tier (p : CustomPricing) (spot : Bool) : UnitPrices String :=
  if spot then { cpu := p.spotCpu, ram := p.spotRam, gpu := p.spotGpu, storage := p.storage }
  else { cpu := p.cpu, ram := p.ram, gpu := p.gpu, storage := p.storage }

/-- The workloads have the same measurements. They may differ in all that is said of the node and
of the claims, but for the amounts that are claimed on bound volumes. -/
structure Workload.Repriced (w w' : Workload α) : Prop where
  rest : w' = { w with node := w'.node, claims := w'.claims }
  amounts : (boundStorage w'.claims).map Prod.snd = (boundStorage w.claims).map Prod.snd

/-- The prices that count for a workload are the same in both settings. -/
inductive Workload.PricesAgree (custom custom' : Option CustomPricing) (w w' : Workload α) : Prop
  /-- A price list counts before and after: for the same tier, with the same prices of that tier. -/
  | listed {list list' : CustomPricing} (before : enabledPricing custom = some list)
      (after : enabledPricing custom' = some list') (spot : w'.node.isSpot = w.node.isSpot)
      (tier : list'.tier w.node.isSpot = list.tier w.node.isSpot)
  /-- The workload's own prices count before and after, and are the same. -/
  | unlisted (before : enabledPricing custom = none) (after : enabledPricing custom' = none)
      (vcpu : w'.node.vcpuCost = w.node.vcpuCost) (ram : w'.node.ramCost = w.node.ramCost)
      (gpu : w'.node.gpuCost = w.node.gpuCost)
      (storage : boundStorage w'.claims = boundStorage w.claims)

namespace Workload.Repriced

variable {w w' : Workload α}

theorem refl (w : Workload α) : w.Repriced w := ⟨rfl, rfl⟩

theorem cluster_eq (h : w.Repriced w') : w'.cluster = w.cluster := by rw [h.rest]

theorem usage_eq (h : w.Repriced w') : w'.usage = w.usage := by rw [h.rest]

theorem network_eq (h : w.Repriced w') : w'.network = w.network := by rw [h.rest]

end Workload.Repriced

theorem Workload.PricesAgree.refl (custom : Option CustomPricing) (w : Workload α) :
    w.PricesAgree custom custom w := by
  cases h : enabledPricing custom with
  | some list => exact .listed h h rfl rfl
  | none => exact .unlisted h h rfl rfl rfl rfl

variable [Number α]

/-! ## The parts of a price -/

/-- What is read of the texts of prices. -/
def UnitPrices.ofTexts (t : UnitPrices String) : UnitPrices α where
  cpu := (readPrice t.cpu).value
  ram := (readPrice t.ram).value
  gpu := (readPrice t.gpu).value
  storage := (readPrice t.storage).value

theorem value_select_of_listed {custom : Option CustomPricing} {list : CustomPricing}
    (h : enabledPricing custom = some list) (node : Node) :
    (UnitPrices.select node custom).value =
      (UnitPrices.ofTexts (list.tier node.isSpot) : UnitPrices α) := by
  unfold UnitPrices.select CustomPricing.tier
  rw [h]
  cases node.isSpot <;> rfl

theorem value_select_of_unlisted {custom : Option CustomPricing} (h : enabledPricing custom = none)
    (node : Node) :
    (UnitPrices.select node custom).value = (UnitPrices.ofTexts
      { cpu := node.vcpuCost, ram := node.ramCost, gpu := node.gpuCost,
        storage := node.storageCost } : UnitPrices α) := by
  unfold UnitPrices.select
  rw [h]
  rfl

namespace Terms

variable {terms terms' : Terms α} {prices prices' : UnitPrices α}

/-- The claims are priced volume by volume. An unbound claim costs nothing. -/
theorem volumeCosts_eq (terms : Terms α) (prices : UnitPrices α) (idleCoefficient : α)
    (claims : List (Claim α)) :
    terms.volumeCosts prices idleCoefficient claims = (boundStorage claims).map fun b =>
      (terms.volumeTariff prices idleCoefficient { cost := b.1 }).price b.2 := by
  unfold volumeCosts boundStorage
  rw [List.map_filterMap]
  refine List.filterMap_congr fun c _ => ?_
  cases c.volume <;> rfl

/-- With an enabled price list, volumes are priced by its storage price. -/
theorem volumeTariff_of_listed {list : CustomPricing}
    (h : enabledPricing terms.customPricing = some list) (idleCoefficient : α) (v : Volume) :
    terms.volumeTariff prices idleCoefficient v =
      { unitPrice := prices.storage, scale := bytesPerGiB, remaining := 1, idleCoefficient,
        multiplier := terms.cadence.multiplier } := by
  unfold volumeTariff Volume.unitPrice
  rw [h]
  rfl

/-- Without one, they are priced by their own. -/
theorem volumeTariff_of_unlisted (h : enabledPricing terms.customPricing = none)
    (idleCoefficient : α) (v : Volume) :
    terms.volumeTariff prices idleCoefficient v =
      { unitPrice := (readPrice v.cost).value, scale := bytesPerGiB, remaining := 1,
        idleCoefficient, multiplier := terms.cadence.multiplier } := by
  unfold volumeTariff Volume.unitPrice
  rw [h]

end Terms

/-! ## The cost of a workload -/

namespace Workload.PricesAgree

variable {w w' : Workload α} (terms terms' : Terms α)

/-- The cost of the bound volumes is the same, whatever is discounted. -/
theorem volumeCosts (hagree : PricesAgree terms.customPricing terms'.customPricing w w')
    (h : w.Repriced w') (hcadence : terms'.cadence = terms.cadence) (idleCoefficient : α) :
    terms'.volumeCosts (UnitPrices.select w'.node terms'.customPricing).value idleCoefficient
        w'.claims =
      terms.volumeCosts (UnitPrices.select w.node terms.customPricing).value idleCoefficient
        w.claims := by
  rw [Terms.volumeCosts_eq, Terms.volumeCosts_eq]
  cases hagree with
  | listed before after spot tier =>
    simp only [Terms.volumeTariff_of_listed before, Terms.volumeTariff_of_listed after,
      value_select_of_listed before, value_select_of_listed after, spot, tier, hcadence]
    -- only the amounts are read, and not the volumes' own prices
    have hamounts (t : Tariff α) (bs : List (String × Series α)) :
        (bs.map fun b => t.price b.2) = (bs.map Prod.snd).map t.price := (List.map_map).symm
    rw [hamounts, hamounts, h.amounts]
  | unlisted before after vcpu ram gpu storage =>
    simp only [Terms.volumeTariff_of_unlisted before, Terms.volumeTariff_of_unlisted after, storage,
      hcadence]

/-- **The prices that count determine the cost** of a workload. -/
theorem value_price (hagree : PricesAgree terms.customPricing terms'.customPricing w w')
    (h : w.Repriced w') (hcadence : terms'.cadence = terms.cadence)
    (hdiscount : terms'.discount = terms.discount) (idleCoefficient : α) :
    (w'.price terms' idleCoefficient).value = (w.price terms idleCoefficient).value := by
  rw [Workload.value_price, Workload.value_price, volumeCosts terms terms' hagree h hcadence,
    h.usage_eq, h.network_eq]
  unfold Terms.tariff
  rw [hcadence, hdiscount]
  cases hagree with
  | listed before after spot tier =>
    rw [value_select_of_listed before, value_select_of_listed after, spot, tier]
  | unlisted before after vcpu ram gpu storage =>
    rw [value_select_of_unlisted before, value_select_of_unlisted after, vcpu, ram, gpu]
    rfl

/-- **The discount does not enter into the cost of volumes**, nor do prices that do not count. -/
theorem volumes_price (hagree : PricesAgree terms.customPricing terms'.customPricing w w')
    (h : w.Repriced w') (hcadence : terms'.cadence = terms.cadence) (idleCoefficient : α) :
    (w'.price terms' idleCoefficient).value.volumes =
      (w.price terms idleCoefficient).value.volumes := by
  rw [Workload.value_price, Workload.value_price]
  exact volumeCosts terms terms' hagree h hcadence idleCoefficient

end Workload.PricesAgree

/-! ## The times of costs -/

/-- A price does not change the times of what it is paid for. -/
theorem Tariff.related_price (t t' : Tariff α) (s : Series α) :
    (t.price s).Related (fun _ _ => True) (t'.price s) := by
  rw [Series.Related, price, price, List.forall₂_map_left_iff, List.forall₂_map_right_iff]
  exact List.forall₂_same.mpr fun x _ => ⟨rfl, trivial⟩

/-- Volumes cost something at the same times, whatever they cost. -/
theorem Workload.Repriced.related_volumeCosts {w w' : Workload α} (h : w.Repriced w')
    (terms terms' : Terms α) (prices prices' : UnitPrices α) (idleCoefficient : α) :
    List.Forall₂ (Series.Related fun _ _ => True)
      (terms'.volumeCosts prices' idleCoefficient w'.claims)
      (terms.volumeCosts prices idleCoefficient w.claims) := by
  have hamounts : List.Forall₂ (fun b b' => b.2 = b'.2) (boundStorage w'.claims)
      (boundStorage w.claims) := by
    rw [← List.forall₂_map_left_iff (R := fun s b' => s = Prod.snd b'),
      ← List.forall₂_map_right_iff, List.forall₂_eq_eq_eq]
    exact h.amounts
  rw [Terms.volumeCosts_eq, Terms.volumeCosts_eq]
  refine List.rel_map (fun b b' hb => ?_) hamounts
  rw [hb]
  exact Tariff.related_price _ _ _

/-! ## Bound volumes and the network -/

/-- There is a series for every bound volume, and for nothing else. -/
theorem length_volumes_price (w : Workload α) (terms : Terms α) (idleCoefficient : α) :
    (w.price terms idleCoefficient).value.volumes.length =
      w.claims.countP fun c => c.volume.isSome := by
  rw [Workload.value_price, Terms.volumeCosts_eq, List.length_map, boundStorage,
    List.length_filterMap_eq_countP]
  simp only [Option.isSome_map]

/-- The cost of the network is passed through. -/
theorem network_price (w : Workload α) (terms : Terms α) (idleCoefficient : α) :
    (w.price terms idleCoefficient).value.network = w.network := by
  rw [Workload.value_price]

end Chargeback

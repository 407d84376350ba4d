import Chargeback.Pricing.UnitPrices

/-!
# Priced workloads

Every sample of a resource costs its amount times the unit price, less the discount, divided by the
idle coefficient of the cluster and scaled to the cadence of the report. Bytes are priced by the
GiB. Storage is never discounted, an unbound claim costs nothing, and network cost is passed through
as it is.
-/

namespace Chargeback

/-- What all workloads of a report are priced by. -/
structure Terms (α : Type) where
  cadence : Cadence := .cumulative
  /-- The part of the price of cores, memory and GPUs that is taken off. -/
  discount : α
  customPricing : Option CustomPricing := none

/-- The cost of one workload over time. -/
structure Priced (α : Type) where
  cpu : Series α := []
  ram : Series α := []
  gpu : Series α := []
  /-- One series for each bound volume. -/
  volumes : List (Series α) := []
  network : Series α := []
  deriving Repr

variable {α : Type} [Number α]

/-- Bytes in a GiB. -/
def bytesPerGiB : α := Number.ofNat (1024 * 1024 * 1024)

/-- How the samples of one resource are priced. -/
structure Tariff (α : Type) where
  /-- The price of a unit and hour. -/
  unitPrice : α
  /-- The amount that makes a unit. -/
  scale : α
  /-- What remains of the price after the discount. -/
  remaining : α
  idleCoefficient : α
  multiplier : α

namespace Tariff

/-- The cost of an amount. -/
def cost (t : Tariff α) (amount : α) : α :=
  (amount / t.scale * t.unitPrice * t.remaining / t.idleCoefficient) * t.multiplier

/-- The cost of a series, at grid times. -/
def price (t : Tariff α) (s : Series α) : Series α :=
  s.map fun x => ⟨quantize x.time gridWidth, t.cost x.value⟩

@[simp] theorem price_nil (t : Tariff α) : t.price [] = [] := rfl

@[simp] theorem length_price (t : Tariff α) (s : Series α) : (t.price s).length = s.length := by
  simp [price]

end Tariff

namespace Priced

/-- The cost of cores, memory, GPUs and volumes. -/
def resourceTotal (p : Priced α) : α :=
  p.cpu.total + p.ram.total + p.gpu.total + Number.sum (p.volumes.map Series.total)

/-- The whole cost, with that of the network. -/
def total (p : Priced α) : α := p.resourceTotal + p.network.total

end Priced

/-- The price of a GiB on a volume: the storage price of an enabled price list, else its own. -/
def Volume.unitPrice (v : Volume) (terms : Terms α) (prices : UnitPrices α) :
    Journaled (Effect α) α :=
  match enabledPricing terms.customPricing with
  | some _ => pure prices.storage
  | none => readPrice v.cost

/-- The cost of the bound volumes among the claims, in order. -/
def priceClaims (terms : Terms α) (prices : UnitPrices α) (idleCoefficient : α) :
    List (Claim α) → Journaled (Effect α) (List (Series α))
  | [] => pure []
  | c :: cs =>
    match c.volume with
    | none => priceClaims terms prices idleCoefficient cs
    | some v => do
      let unitPrice ← v.unitPrice terms prices
      let tariff : Tariff α :=
        { unitPrice, scale := bytesPerGiB, remaining := 1, idleCoefficient,
          multiplier := terms.cadence.multiplier }
      let rest ← priceClaims terms prices idleCoefficient cs
      return tariff.price c.requested :: rest

/-- Prices a workload, given the idle coefficient of its cluster. -/
def Workload.price (w : Workload α) (terms : Terms α) (idleCoefficient : α) :
    Journaled (Effect α) (Priced α) := do
  let prices ← UnitPrices.select w.node terms.customPricing
  let tariff (unitPrice scale : α) : Tariff α :=
    { unitPrice, scale, remaining := 1 - terms.discount, idleCoefficient,
      multiplier := terms.cadence.multiplier }
  let volumes ← priceClaims terms prices idleCoefficient w.claims
  return {
    cpu := (tariff prices.cpu 1).price w.usage.cpu.allocation
    ram := (tariff prices.ram bytesPerGiB).price w.usage.ram.allocation
    gpu := (tariff prices.gpu 1).price w.usage.gpu
    volumes
    network := w.network }

end Chargeback

import Chargeback.Journal.Basic
import Chargeback.Journal.Event

/-!
# Unit prices

The hourly prices of one workload: those of its node, or those of an enabled price list of the
caller's own, which has a tier for spot nodes. Prices are texts. A malformed one is reported and
counts as zero, so that it does not stop a report; an empty one counts as zero in silence.
-/

namespace Chargeback

/-- A price list that takes the place of the prices of nodes, if it is enabled. -/
structure CustomPricing where
  enabled : Bool := false
  cpu : String := ""
  ram : String := ""
  gpu : String := ""
  spotCpu : String := ""
  spotRam : String := ""
  spotGpu : String := ""
  storage : String := ""
  deriving DecidableEq, Repr

/-- Hourly prices of a core, a GiB of memory, a GPU and a GiB of storage. -/
structure UnitPrices (α : Type) where
  cpu : α
  ram : α
  gpu : α
  storage : α
  deriving Repr

variable {α : Type} [Number α]

/-- Reads a price. -/
def readPrice (price : String) : Journaled (Effect α) α :=
  match Numeral.read price with
  | .ok n => pure (Number.ofNumeral n)
  | .error .empty => pure 0
  | .error defect => do
    .tell (.event (.malformedPrice price defect))
    return 0

/-- The price list, if there is one and it is enabled. -/
def enabledPricing (custom : Option CustomPricing) : Option CustomPricing :=
  custom.filter CustomPricing.enabled

namespace UnitPrices

/-- Reads four prices, in this order. -/
def read (cpu ram gpu storage : String) : Journaled (Effect α) (UnitPrices α) := do
  let cpu ← readPrice cpu
  let ram ← readPrice ram
  let gpu ← readPrice gpu
  let storage ← readPrice storage
  return { cpu, ram, gpu, storage }

/-- The prices that apply on a node. -/
def select (node : Node) (custom : Option CustomPricing) : Journaled (Effect α) (UnitPrices α) :=
  match enabledPricing custom with
  | some list =>
    if node.isSpot then read list.spotCpu list.spotRam list.spotGpu list.storage
    else read list.cpu list.ram list.gpu list.storage
  | none => read node.vcpuCost node.ramCost node.gpuCost node.storageCost

end UnitPrices

end Chargeback

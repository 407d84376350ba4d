import Chargeback.Json.Decode
import Chargeback.Pricing.UnitPrices

/-!
# Price lists in documents

A price list occurs in JSON and among the settings, which have their own ways of writing truth
values and texts.
-/

namespace Chargeback.CustomPricing

variable {γ : Type}

/-- The fields of a price list, in order. Spot prices have two spellings. -/
def fields : List Field :=
  ["enabled", "cpu", "ram", "gpu", { name := "spotCpu", otherName := "spot_cpu" },
    { name := "spotRam", otherName := "spot_ram" }, { name := "spotGpu", otherName := "spot_gpu" }, "storage"]

/-- The price list of the fields that are there, given how truth values and texts are read. -/
def ofFound? (bool? : γ → Option Bool) (text? : γ → Option String) (found : Found γ) :
    Option CustomPricing := do
  let text (name : String) := found.withDefault name text? ""
  return {
    enabled := ← found.withDefault "enabled" bool? false
    cpu := ← text "cpu"
    ram := ← text "ram"
    gpu := ← text "gpu"
    spotCpu := ← text "spotCpu"
    spotRam := ← text "spotRam"
    spotGpu := ← text "spotGpu"
    storage := ← text "storage" }

/-- Reads a price list. -/
def decode? : Json.Decoder CustomPricing := fun v => do
  ofFound? Json.bool? Json.string? (← Json.fields? fields v)

end Chargeback.CustomPricing

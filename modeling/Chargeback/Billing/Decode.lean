import Chargeback.Billing.Totals
import Chargeback.Json.Decode

/-!
# Billing totals in JSON

An export of billing totals lists, for each cluster, the samples of every item as pairs of texts.
-/

namespace Chargeback

open Json (Decoder)

/-- Reads a pair of texts. -/
def BillingSample.decode? : Decoder BillingSample
  | .array [.string time, .string amount] => some { time, amount }
  | _ => none

/-- Reads the bill of a cluster. -/
def ClusterTotals.decode? : Decoder ClusterTotals := fun v => do
  let found ← Json.fields? ["cpuCost", "memCost", "storageCost"] v
  let samples (name : String) := found.withDefault name (Json.list? BillingSample.decode?) []
  return {
    cpu := ← samples "cpuCost"
    memory := ← samples "memCost"
    storage := ← samples "storageCost" }

/-- Reads the bills of clusters. -/
def Billing.decode? : Decoder Billing := Json.assoc? ClusterTotals.decode?

end Chargeback

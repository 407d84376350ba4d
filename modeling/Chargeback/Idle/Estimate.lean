import Chargeback.Billing.Totals
import Chargeback.Billing.Window
import Chargeback.Index
import Chargeback.Pricing.Priced
import Chargeback.Sorting

/-!
# Idle estimation

The idle coefficient of a cluster is the cost observed on its workloads relative to what the cluster
was billed over the same window. A report divides every priced sample by it, so that observed costs
add up to the bill. A cluster without a usable bill, or without observed cost, gets the coefficient
one. A billed amount that is no number ends the whole estimation; the journal keeps what was
reported before.
-/

namespace Chargeback

variable {α : Type} [Number α]

/-- An estimation may fail, and keeps its journal when it does. -/
abbrev EstimateM (α : Type) := ExceptT Fault (Journaled (Effect α))

/-- Reports effects. -/
def EstimateM.report (effects : List (Effect α)) : EstimateM α Unit :=
  liftM (Journaled.tellAll effects)

/-- Asks a billing source for the bills over a window, and reports that it does. An estimation asks
a source in no other way, so that its journal lists every question. -/
def BillingSource.ask (source : BillingSource) (window : String) (offset : Option String) :
    EstimateM α Billing := do
  .report [.billingQuery window offset]
  (source window offset).mapError Fault.billingQuery

/-- What is known of a cluster in the end. -/
inductive Outcome (α : Type) where
  /-- Its bill cannot be used. -/
  | unbilled (gap : BillingGap)
  /-- It is billed, and its workloads cost nothing. -/
  | unobserved (billed : α)
  | estimated (observed billed : α)
  deriving Repr

namespace Outcome

/-- The coefficient of the cluster. -/
def coefficient : Outcome α → α
  | .estimated observed billed => observed / billed
  | _ => 1

/-- What is reported about the cluster. -/
def effects (cluster : String) (o : Outcome α) : List (Effect α) :=
  match o with
  | .unbilled gap => [.event (.missingBilling cluster gap), .count .withoutBilling]
  | .unobserved billed => [.event (.unobservedCluster cluster billed), .count .withoutBilling]
  | .estimated observed billed =>
    [.event (.idleCoefficient cluster observed billed o.coefficient),
      .coefficient cluster o.coefficient]

end Outcome

/-- The amount of the first sample of an item. -/
def readTotal (cluster : String) (item : BillItem) (samples : List BillingSample) :
    Except Fault α :=
  let amount := (samples.head?.map BillingSample.amount).getD ""
  match Numeral.read amount with
  | .ok n => .ok (Number.ofNumeral n)
  | .error defect => .error (.invalidBillingTotal cluster item amount defect)

/-- The discounted bill of a month. Storage is never discounted. -/
def monthlyBill (cluster : String) (totals : ClusterTotals) (discount : α) : Except Fault α := do
  let cpu ← readTotal cluster .cpu totals.cpu
  let memory ← readTotal cluster .memory totals.memory
  let storage ← readTotal cluster .storage totals.storage
  return cpu * (1 - discount) + memory * (1 - discount) + storage

/-- The part of a monthly bill that falls into a window. -/
def proRated (bill : α) (window : Window) : α := bill / hoursPerMonth * window.hours

/-- The cost of the workloads of a cluster, as it is without idle correction. -/
def observedCost (inventory : Inventory α) (terms : Terms α) (cluster : String) :
    Journaled (Effect α) α := do
  let own := inventory.values.filter fun w => w.cluster == cluster
  let costs ← own.mapM fun w => Priced.resourceTotal <$> w.price terms 1
  return Number.sum costs

/-- What is known of one cluster. -/
def outcome (inventory : Inventory α) (billing : Billing) (terms : Terms α) (window : Window)
    (cluster : String) : EstimateM α (Outcome α) := do
  match (billing.get? cluster).filter ClusterTotals.hasData with
  | none => return .unbilled .noSamples
  | some totals =>
    let billed := proRated (← monthlyBill cluster totals terms.discount) window
    if !Number.isUsable billed then return .unbilled .zeroCost
    let observed ← observedCost inventory terms cluster
    if !Number.isUsable observed then return .unobserved billed
    return .estimated observed billed

/-- The clusters of an inventory, in ascending order. -/
def Inventory.clusters (inventory : Inventory α) : List String :=
  distinctAscending (inventory.values.map Workload.cluster)

/-- Adds the idle coefficient of one cluster to those found before. -/
def visit (inventory : Inventory α) (billing : Billing) (terms : Terms α) (window : Window)
    (found : Index α) (cluster : String) : EstimateM α (Index α) := do
  let o ← outcome inventory billing terms window cluster
  .report (o.effects cluster)
  return found.insert cluster o.coefficient

/-- The idle coefficients of all clusters of an inventory, for a window of the billing source. -/
def idleCoefficients (inventory : Inventory α) (source : BillingSource)
    (customPricing : Option CustomPricing) (discount : α) (window : String)
    (offset : Option String) : EstimateM α (Index α) := do
  let length ← Window.read window
  let billing ← source.ask window offset
  let terms : Terms α := { cadence := .cumulative, discount, customPricing }
  (Inventory.clusters inventory).foldlM (visit inventory billing terms length) ∅

end Chargeback

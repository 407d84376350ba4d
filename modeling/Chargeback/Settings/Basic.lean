import Chargeback.Failure
import Chargeback.Decimal.Shortest
import Chargeback.Pricing.UnitPrices
import Chargeback.Report.Sharing
import Chargeback.Text.Split

/-!
# Settings

What can be configured. `Settings.validated` accepts the settings whose discount is one, and
`SharedSettings.policy` combines the configured sharing with what is asked for on the command line.
-/

namespace Chargeback

/-- The configured sharing. Label names and values belong together by position. -/
structure SharedSettings where
  enabled : Bool := false
  namespaces : List String := []
  labelNames : List String := []
  labelValues : List String := []
  deriving DecidableEq, Repr

/-- The configuration. -/
structure Settings where
  discount : Float := 0
  /-- The name of the cadence. -/
  rate : String := ""
  /-- The window of the billing totals. -/
  window : String := "24h"
  customPricing : Option CustomPricing := none
  shared : SharedSettings := {}
  deriving Repr

/-- Accepts a discount in `[0, 1)`. -/
def validateDiscount (discount : Float) : Except Failure Float :=
  if 0 ≤ discount ∧ discount < 1 then .ok discount else .error (.discountOutOfRange discount)

/-- Accepts settings with a valid discount. -/
def Settings.validated (s : Settings) : Except Failure Settings :=
  (validateDiscount s.discount).map fun _ => s

/-- Reads a label selector: a name and a value around the first equals sign. -/
def readSelector (selector : String) : Except Failure (String × String) :=
  match cut? '=' selector with
  | some pair => .ok pair
  | none => .error (.malformedSelector selector)

/-- The policy of the configured sharing, with namespaces and selectors added to it. -/
def SharedSettings.policy (s : SharedSettings) (enable : Bool) (namespaces selectors : List String) :
    Except Failure SharingPolicy := do
  let added ← selectors.mapM readSelector
  (SharingPolicy.ofLists (s.enabled || enable) (s.namespaces ++ namespaces)
    (s.labelNames ++ added.map Prod.fst) (s.labelValues ++ added.map Prod.snd)).mapError .sharing

end Chargeback

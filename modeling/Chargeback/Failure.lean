import Chargeback.Decimal.Shortest
import Chargeback.Fault

/-!
# Failures of commands

Why a command gives up. A failure is a cause with what it is about; one that comes from a fault of
the computation carries it. The wording is in `Failure.message`.
-/

namespace Chargeback

/-- Why a command gives up. -/
inductive Failure where
  /-- A configuration file is missing, of no known format, or malformed. -/
  | unreadableSettings
  /-- A setting cannot be taken for what it should be. -/
  | unsuitableSettings
  | discountOutOfRange (discount : Float)
  /-- The grouping asked for does not exist. -/
  | grouping (fault : Fault)
  /-- There is no file of cost data, or it is no text. -/
  | unreadableCostData (path : String)
  | malformedCostData (path : String)
  /-- A label selector has no equals sign. -/
  | malformedSelector (selector : String)
  /-- The sharing asked for makes no policy. -/
  | sharing (fault : Fault)
  /-- Idle estimation failed on the billing totals of a file. -/
  | idleEstimation (path : String) (fault : Fault)
  deriving Repr

namespace Failure

/-- The wording of a failure. -/
def message : Failure → String
  | .unreadableSettings => "Failed to read configuration"
  | .unsuitableSettings => "Failed to parse configuration"
  | .discountOutOfRange discount => s!"Discount must be in [0, 1), got {Decimal.plain discount}"
  | .grouping _ => "Invalid aggregation field"
  | .unreadableCostData path => s!"Failed to read cost data from {path}"
  | .malformedCostData path => s!"Failed to parse cost data in {path}"
  | .malformedSelector selector => s!"Invalid label selector {quoted selector}, expected name=value"
  | .sharing _ => "Invalid shared resource configuration"
  | .idleEstimation path _ => s!"Failed to compute idle coefficients from {path}"

/-- The fault that a failure comes from. -/
def fault? : Failure → Option Fault
  | .grouping fault | .sharing fault | .idleEstimation _ fault => some fault
  | _ => none

end Failure

end Chargeback

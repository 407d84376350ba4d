import Chargeback.Decimal.Numeral
import Chargeback.Text.Quoted

/-!
# Faults

Why a report or an idle estimation cannot be made. Each fault is a cause with what it is about; its
wording is in `Fault.message`.
-/

namespace Chargeback

/-- The parts of a cluster's bill. -/
inductive BillItem where
  | cpu
  | memory
  | storage
  deriving DecidableEq, Repr

def BillItem.name : BillItem → String
  | .cpu => "cpu"
  | .memory => "memory"
  | .storage => "storage"

/-- Why a computation is given up. -/
inductive Fault where
  /-- The text is no duration of positive length. -/
  | invalidWindow (text : String)
  /-- A billed amount is no number. -/
  | invalidBillingTotal (cluster : String) (item : BillItem) (amount : String)
      (defect : Numeral.Defect)
  /-- The billing source failed, with its explanations from the outermost to the root. -/
  | billingQuery (reasons : List String)
  /-- No attribute has this name. -/
  | unknownField (name : String)
  /-- The selectors have different numbers of label names and values. -/
  | labelSelectorMismatch (names values : Nat)
  deriving DecidableEq, Repr

/-- The wording of a fault. -/
def Fault.message : Fault → String
  | .invalidWindow text => s!"Invalid window duration: {quoted text}"
  | .invalidBillingTotal cluster item amount _ =>
    s!"Invalid {item.name} total for cluster {cluster}: {quoted amount}"
  | .billingQuery reasons => "Cluster cost query failed: " ++ ": ".intercalate reasons
  | .unknownField name => s!"Unknown aggregation field: {quoted name}"
  | .labelSelectorMismatch names values =>
    s!"Shared label selectors mismatch: {names} names, {values} values"

end Chargeback

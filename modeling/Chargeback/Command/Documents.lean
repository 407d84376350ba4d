import Chargeback.Billing.Decode
import Chargeback.Failure
import Chargeback.Json.Reader
import Chargeback.Surroundings
import Chargeback.Workload.Decode

/-!
# Documents

Cost data and billing totals are JSON documents in files. The billing totals of a file cover one
window, whatever it is, so that a source made of them cannot answer for a window that is shifted.
-/

namespace Chargeback

/-- Reads the cost data at a path. -/
def readCostData (s : Surroundings) (path : String) : Except Failure (Inventory Float) :=
  match s.file path with
  | none => .error (.unreadableCostData path)
  | some text =>
    match (Json.parse? text).bind Inventory.decode? with
    | some inventory => .ok inventory
    | none => .error (.malformedCostData path)

namespace BillingExport

/-- Why a file does not answer with billing totals. -/
inductive Refusal where
  | shifted (path offset : String)
  | unreadable (path : String)
  | malformed (path : String)
  deriving DecidableEq, Repr

/-- The wording of a refusal. -/
def Refusal.message : Refusal → String
  | .shifted path offset =>
    s!"Billing export {path} covers a single window, cannot apply offset {quoted offset}"
  | .unreadable path => s!"Failed to read billing totals from {path}"
  | .malformed path => s!"Failed to parse billing totals in {path}"

/-- Reads the billing totals at a path. -/
def read (s : Surroundings) (path : String) (offset : Option String) : Except Refusal Billing :=
  match offset with
  | some offset => .error (.shifted path offset)
  | none =>
    match s.file path with
    | none => .error (.unreadable path)
    | some text =>
      match (Json.parse? text).bind Billing.decode? with
      | some billing => .ok billing
      | none => .error (.malformed path)

/-- The billing totals at a path as a source. -/
def source (s : Surroundings) (path : String) : BillingSource := fun _ offset =>
  (read s path offset).mapError fun r => [r.message]

end BillingExport

end Chargeback

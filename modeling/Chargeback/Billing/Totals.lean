import Chargeback.Assoc

/-!
# Billing totals

What a cluster was billed, item by item, as reported by the billing source: rows of samples with
their amounts as text. `BillingSource` is where they come from.
-/

namespace Chargeback

/-- One row of a billing query. -/
structure BillingSample where
  time : String
  amount : String
  deriving DecidableEq, Repr

/-- The bill of a cluster. -/
structure ClusterTotals where
  cpu : List BillingSample := []
  memory : List BillingSample := []
  storage : List BillingSample := []
  deriving DecidableEq, Repr

/-- Whether every item of the bill has a sample. -/
def ClusterTotals.hasData (t : ClusterTotals) : Bool :=
  !t.cpu.isEmpty && !t.memory.isEmpty && !t.storage.isEmpty

/-- The bills of clusters. -/
abbrev Billing := Assoc ClusterTotals

/-- Answers with the bills over a window, shifted back by an offset if one is given, or with the
reasons of its failure, the outermost first. -/
abbrev BillingSource := String → Option String → Except (List String) Billing

end Chargeback

import Chargeback.Fault
import Chargeback.Sorting
import Chargeback.Workload.Basic

/-!
# Sharing

Workloads that serve everyone have no bucket of their own: their cost is pooled and split evenly
over all buckets. A policy recognises them by namespace or by a label with a given value; the
namespace of the system is always among them.
-/

namespace Chargeback

/-- The namespace of the system's own workloads. -/
def systemNamespace : String := "kube-system"

/-- Which workloads are shared, and whether sharing is on. -/
structure SharingPolicy where
  enabled : Bool
  /-- Ascending and distinct. -/
  namespaces : List String
  /-- Label names with the value each has to have. -/
  selectors : Assoc String

namespace SharingPolicy

/-- The policy of lists of namespaces, label names and label values. Names and values belong
together by position, and the last value given to a name counts. -/
def ofLists (enabled : Bool) (namespaces labelNames labelValues : List String) :
    Except Fault SharingPolicy :=
  if labelNames.length = labelValues.length then
    .ok {
      enabled
      namespaces := distinctAscending (systemNamespace :: namespaces)
      selectors := Assoc.ofList (labelNames.zip labelValues) }
  else .error (.labelSelectorMismatch labelNames.length labelValues.length)

variable {α : Type}

/-- Whether the namespace or a label of the workload is shared. -/
def recognises (p : SharingPolicy) (w : Workload α) : Bool :=
  p.namespaces.contains w.namespaceName ||
    p.selectors.entries.any fun s => w.labels.get? s.1 == some s.2

/-- Whether the workload is pooled: recognised by a policy that is on. -/
def appliesTo (p : SharingPolicy) (w : Workload α) : Bool := p.enabled && p.recognises w

end SharingPolicy

end Chargeback

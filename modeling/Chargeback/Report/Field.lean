import Chargeback.Workload.Basic
import Chargeback.Fault

/-!
# Grouping

A report groups workloads by one attribute. `GroupField.key?` gives the bucket of a workload, or
nothing if the workload lacks the attribute.
-/

namespace Chargeback

/-- The attribute by which a report groups workloads. -/
inductive GroupField where
  | cluster
  | namespaceName
  | service
  | deployment
  | daemonset
  | label
  | pod
  deriving DecidableEq, Repr, Inhabited

namespace GroupField

def name : GroupField → String
  | .cluster => "cluster"
  | .namespaceName => "namespace"
  | .service => "service"
  | .deployment => "deployment"
  | .daemonset => "daemonset"
  | .label => "label"
  | .pod => "pod"

/-- All attributes. -/
def all : List GroupField := [.cluster, .namespaceName, .service, .deployment, .daemonset, .label, .pod]

/-- The attribute of a name, in lower case. -/
def ofName? (name : String) : Option GroupField := all.find? (·.name == name)

/-- The attribute of a name, or the fault that there is none. -/
def ofName (name : String) : Except Fault GroupField :=
  match ofName? name with
  | some f => .ok f
  | none => .error (.unknownField name)

/-- A name within a namespace. -/
def qualified (space name : String) : String := space ++ "/" ++ name

/-- The bucket of a workload. By label, it is the value of the first label among `subfields` that
the workload carries. -/
def key? {α : Type} (field : GroupField) (subfields : List String) (w : Workload α) :
    Option String :=
  match field with
  | .cluster => some w.cluster
  | .namespaceName => some w.namespaceName
  | .service => w.services.head?.map (qualified w.namespaceName)
  | .deployment => w.deployments.head?.map (qualified w.namespaceName)
  | .daemonset => w.daemonsets.head?.map (qualified w.namespaceName)
  | .label => subfields.findSome? w.labels.get?
  | .pod => some (qualified w.namespaceName w.pod)

@[simp] theorem ofName?_name (f : GroupField) : ofName? f.name = some f := by cases f <;> rfl

theorem name_of_ofName? {name : String} {f : GroupField} (h : ofName? name = some f) :
    f.name = name := by
  unfold ofName? at h
  simpa using List.find?_some h

end GroupField

end Chargeback

import Chargeback.Assoc
import Chargeback.Series.Basic

/-!
# Workloads

What is measured of a workload: where it ran, what it is part of, and how much of each resource it
was given, asked for and used. Prices are kept as the text reported by their source and are read
only when the workload is priced.
-/

namespace Chargeback

/-- Purchase tier and hourly prices of a node. -/
structure Node where
  instanceType : String := ""
  /-- The purchase tier, such as `ondemand`, `spot` or `preemptible`. -/
  usageType : String := ""
  /-- Price of a core. -/
  vcpuCost : String := ""
  /-- Price of a GiB of memory. -/
  ramCost : String := ""
  /-- Price of a GPU. -/
  gpuCost : String := ""
  /-- Price of a GiB of attached storage. -/
  storageCost : String := ""
  deriving DecidableEq, Repr

/-- Whether `word` occurs in a text, letter case of ASCII aside; `word` is in lower case. -/
def mentions (text word : String) : Bool :=
  occursIn (text.toList.map Char.toLower)
where
  /-- Whether `word` starts at some position. -/
  occursIn : List Char → Bool
    | [] => word.isEmpty
    | c :: cs => word.toList.isPrefixOf (c :: cs) || occursIn cs

/-- Whether the node is billed on a spot or preemptible tier. -/
def Node.isSpot (n : Node) : Bool :=
  mentions n.usageType "spot" || mentions n.usageType "preemptible"

/-- A persistent volume. -/
structure Volume where
  name : String := ""
  storageClass : String := ""
  /-- Price of a GiB and hour. -/
  cost : String := ""
  deriving DecidableEq, Repr

/-- A claim on storage. Only a claim bound to a volume costs anything. -/
structure Claim (α : Type) where
  name : String := ""
  namespaceName : String := ""
  volume : Option Volume := none
  /-- Bytes. -/
  requested : Series α := []
  deriving Repr

/-- How a resource was utilized over time. -/
structure Utilization (α : Type) where
  allocation : Series α := []
  requested : Series α := []
  used : Series α := []
  deriving Repr

/-- The compute resources of a workload or of a bucket over time. -/
structure Usage (α : Type) where
  /-- Cores. -/
  cpu : Utilization α := {}
  /-- Bytes. -/
  ram : Utilization α := {}
  /-- Devices. -/
  gpu : Series α := []
  deriving Repr

/-- The measurements of one workload. -/
structure Workload (α : Type) where
  name : String := ""
  pod : String := ""
  nodeName : String := ""
  namespaceName : String := ""
  cluster : String := ""
  node : Node := {}
  services : List String := []
  deployments : List String := []
  daemonsets : List String := []
  labels : Assoc String := ∅
  usage : Usage α := {}
  claims : List (Claim α) := []
  /-- In units of cost. -/
  network : Series α := []

/-- Workloads under the keys that identify them. -/
abbrev Inventory (α : Type) := Assoc (Workload α)

end Chargeback

import Chargeback.Json.Decode
import Chargeback.Json.Printer
import Chargeback.Workload.Basic

/-!
# Workloads in JSON

Measurements are collected in JSON, under the keys of the workloads. Every field but the two of a
sample may be left out.
-/

namespace Chargeback

open Json (Decoder)

namespace Sample

/-- Reads a sample. -/
def decode? : Decoder (Sample Float) := fun v => do
  let found ← Json.fields? ["timestamp", "value"] v
  return {
    time := ← found.required "timestamp" Json.float?
    value := ← found.required "value" Json.float? }

/-- Writes a sample. -/
def encode (s : Sample Float) : Json :=
  .object [("timestamp", .ofFloat s.time), ("value", .ofFloat s.value)]

end Sample

namespace Series

/-- Reads a series. -/
def decode? : Decoder (Series Float) := Json.list? Sample.decode?

/-- Writes a series. -/
def encode (s : Series Float) : Json := .array (s.map Sample.encode)

end Series

/-- Reads a node. -/
def Node.decode? : Decoder Node := fun v => do
  let found ← Json.fields?
    ["instanceType", "usageType", "vcpuCost", "ramCost", "gpuCost", "storageCost"] v
  let text (name : String) := found.withDefault name Json.string? ""
  return {
    instanceType := ← text "instanceType"
    usageType := ← text "usageType"
    vcpuCost := ← text "vcpuCost"
    ramCost := ← text "ramCost"
    gpuCost := ← text "gpuCost"
    storageCost := ← text "storageCost" }

/-- Reads a volume. -/
def Volume.decode? : Decoder Volume := fun v => do
  let found ← Json.fields? ["name", "storageClass", "cost"] v
  let text (name : String) := found.withDefault name Json.string? ""
  return {
    name := ← text "name"
    storageClass := ← text "storageClass"
    cost := ← text "cost" }

/-- Reads a claim. -/
def Claim.decode? : Decoder (Claim Float) := fun v => do
  let found ← Json.fields? ["claimName", "namespace", "volume", "values"] v
  let text (name : String) := found.withDefault name Json.string? ""
  return {
    name := ← text "claimName"
    namespaceName := ← text "namespace"
    volume := ← found.withDefault "volume" (Json.nullable? Volume.decode?) none
    requested := ← found.withDefault "values" Series.decode? [] }

namespace Workload

/-- The fields of a workload, in order. -/
def fields : List Field :=
  ["name", "podName", "nodeName", "namespace", "clusterId", "nodeData", "services", "deployments",
    "daemonsets", "labels", "cpuAllocation", "cpuRequested", "cpuUsed", "ramAllocation",
    "ramRequested", "ramUsed", "gpuRequested", "pvcData", "networkCost"]

/-- Reads a workload. -/
def decode? : Decoder (Workload Float) := fun v => do
  let found ← Json.fields? fields v
  let text (name : String) := found.withDefault name Json.string? ""
  let texts (name : String) := found.withDefault name (Json.list? Json.string?) []
  let series (name : String) := found.withDefault name Series.decode? []
  return {
    name := ← text "name"
    pod := ← text "podName"
    nodeName := ← text "nodeName"
    namespaceName := ← text "namespace"
    cluster := ← text "clusterId"
    node := ← found.withDefault "nodeData" Node.decode? {}
    services := ← texts "services"
    deployments := ← texts "deployments"
    daemonsets := ← texts "daemonsets"
    labels := ← found.withDefault "labels" (Json.assoc? Json.string?) ∅
    usage := {
      cpu := {
        allocation := ← series "cpuAllocation"
        requested := ← series "cpuRequested"
        used := ← series "cpuUsed" }
      ram := {
        allocation := ← series "ramAllocation"
        requested := ← series "ramRequested"
        used := ← series "ramUsed" }
      gpu := ← series "gpuRequested" }
    claims := ← found.withDefault "pvcData" (Json.list? Claim.decode?) []
    network := ← series "networkCost" }

end Workload

/-- Reads an inventory: workloads under their keys. -/
def Inventory.decode? : Decoder (Inventory Float) := Json.assoc? Workload.decode?

end Chargeback

import Chargeback.Report.Aggregate
import Chargeback.Workload.Decode

/-!
# Reports in JSON

The written form of a record and its reader. Empty series and lists and scores that have not been
computed are left out; usage and the clusters of a bucket are not part of the written form.
-/

namespace Chargeback

open Json (Decoder)

namespace GroupField

/-- Writes an attribute. -/
def encode (f : GroupField) : Json := .string f.name

/-- Reads an attribute: its name, or an object with the name as its one key and null under it. -/
def decode? : Decoder GroupField
  | .string name => ofName? name
  | .object [(name, .null)] => ofName? name
  | _ => none

end GroupField

namespace Record

/-- A member that is left out if there is nothing to write. -/
def optionalMember (name : String) (v : Option Json) : List (String × Json) :=
  (v.map (name, ·)).toList

/-- A series as a member, left out if it is empty. -/
def seriesMember (name : String) (s : Series Float) : List (String × Json) :=
  if s.isEmpty then [] else [(name, s.encode)]

/-- Writes a record. -/
def encode (r : Record Float) : Json :=
  .object <|
    [("aggregation", r.field.encode)] ++
    (if r.subfields.isEmpty then [] else [("subfields", Json.strings r.subfields)]) ++
    [("environment", .string r.key)] ++
    optionalMember "cluster" (r.cluster.map .string) ++
    [("cpuCost", .ofFloat r.costs.cpu)] ++
    seriesMember "cpuCostVector" r.costSeries.cpu ++
    optionalMember "cpuEfficiency" (r.scores.cpu.map .ofFloat) ++
    [("ramCost", .ofFloat r.costs.ram)] ++
    seriesMember "ramCostVector" r.costSeries.ram ++
    optionalMember "ramEfficiency" (r.scores.ram.map .ofFloat) ++
    [("gpuCost", .ofFloat r.costs.gpu)] ++
    seriesMember "gpuCostVector" r.costSeries.gpu ++
    [("pvCost", .ofFloat r.costs.volume)] ++
    seriesMember "pvCostVector" r.costSeries.volume ++
    [("networkCost", .ofFloat r.costs.network)] ++
    seriesMember "networkCostVector" r.costSeries.network ++
    [("sharedCost", .ofFloat r.costs.shared), ("totalCost", .ofFloat r.costs.total)] ++
    optionalMember "efficiency" (r.scores.overall.map .ofFloat)

/-- The fields of a record, in order. -/
def fields : List Field :=
  ["aggregation", "subfields", "environment", "cluster", "cpuCost", "cpuCostVector",
    "cpuEfficiency", "ramCost", "ramCostVector", "ramEfficiency", "gpuCost", "gpuCostVector",
    "pvCost", "pvCostVector", "networkCost", "networkCostVector", "sharedCost", "totalCost",
    "efficiency"]

/-- Reads a record. -/
def decode? : Decoder (Record Float) := fun v => do
  let found ← Json.fields? fields v
  let amount (name : String) := found.required name Json.float?
  let series (name : String) := found.withDefault name Series.decode? []
  let score (name : String) := found.withDefault name (Json.nullable? Json.float?) none
  return {
    field := ← found.required "aggregation" GroupField.decode?
    subfields := ← found.withDefault "subfields" (Json.list? Json.string?) []
    key := ← found.required "environment" Json.string?
    cluster := ← found.withDefault "cluster" (Json.nullable? Json.string?) none
    costs := {
      cpu := ← amount "cpuCost"
      ram := ← amount "ramCost"
      gpu := ← amount "gpuCost"
      volume := ← amount "pvCost"
      network := ← amount "networkCost"
      shared := ← amount "sharedCost"
      total := ← amount "totalCost" }
    scores := {
      cpu := ← score "cpuEfficiency"
      ram := ← score "ramEfficiency"
      overall := ← score "efficiency" }
    costSeries := {
      cpu := ← series "cpuCostVector"
      ram := ← series "ramCostVector"
      gpu := ← series "gpuCostVector"
      volume := ← series "pvCostVector"
      network := ← series "networkCostVector" } }

end Record

/-- Writes a report. -/
def Report.encode (r : Report Float) : Json :=
  .object (r.entries.map fun e => (e.1, e.2.encode))

end Chargeback

import Chargeback.Display.Amount
import Chargeback.Display.Table
import Chargeback.Report.Written
import Chargeback.Surroundings

/-!
# Rendering

How results are printed: as tables under a heading, for people, or as JSON.
-/

namespace Chargeback.Command

open Display

/-- The text of lines, each with its end. -/
def textOf (lines : List String) : String := String.join (lines.map (· ++ "\n"))

/-- A title over a line of its own. -/
def heading (s : Surroundings) (title : String) : List String :=
  [paint s.colors { bold := true } title, repeated 50 '=']

/-- A remark that there is nothing to show. -/
def remark (s : Surroundings) (message : String) : String :=
  paint s.colors { bold := true, hue := some .blue } "ℹ" ++ " " ++ message

/-- A warning below a table. -/
def warning (s : Surroundings) (message : String) : String :=
  paint s.colors { bold := true, hue := some .yellow } "⚠" ++ " " ++ message

/-! ## Reports -/

/-- The columns of a report. -/
def reportHeader : List String :=
  ["Name", "CPU", "RAM", "GPU", "PV", "Network", "Shared", "Total", "Efficiency"]

/-- The row of a bucket. -/
def reportRow (s : Surroundings) (key : String) (r : Record Float) : List String :=
  [key, cost r.costs.cpu, cost r.costs.ram, cost r.costs.gpu, cost r.costs.volume,
    cost r.costs.network, cost r.costs.shared, cost r.costs.total,
    score s.colors r.scores.overall]

/-- The cost of all buckets. -/
def grandTotal (r : Report Float) : Float := Number.sum (r.values.map fun b => b.costs.total)

/-- The keys of the buckets with a score outside `[0, 1]`. -/
def anomalousKeys (r : Report Float) : List String :=
  (r.entries.filter fun e => e.2.isAnomalous).map Prod.fst

/-- A report as tables. -/
def reportLines (s : Surroundings) (field : GroupField) (cadence : Cadence) (r : Report Float) :
    List String :=
  heading s s!"Cost by {field.name}" ++
    ["Rate:      " ++ paint s.colors { hue := some .cyan } cadence.title,
      "Generated: " ++ s.time, ""] ++
    if r.isEmpty then [remark s "No workloads matched the requested grouping"]
    else
      table reportHeader (r.entries.map fun e => reportRow s e.1 e.2) ++
        ["", "Total:     " ++
          paint s.colors { bold := true, hue := some .green } (cost (grandTotal r))] ++
        if (anomalousKeys r).isEmpty then []
        else [warning s ("Efficiency outside [0, 1] for: " ++ ", ".intercalate (anomalousKeys r))]

/-! ## Idle coefficients -/

/-- Idle coefficients as tables. -/
def idleLines (s : Surroundings) (window : String) (coefficients : Index Float) : List String :=
  heading s "Idle Coefficients" ++
    ["Window:    " ++ paint s.colors { hue := some .cyan } window, ""] ++
    if coefficients.isEmpty then [remark s "No clusters found in input"]
    else
      table ["Cluster", "Idle Coefficient"]
        (coefficients.entries.map fun e => [e.1, coefficient s.colors e.2])

/-- Writes idle coefficients. -/
def encodeIdle (coefficients : Index Float) : Json :=
  .object (coefficients.entries.map fun e => (e.1, .ofFloat e.2))

/-! ## JSON -/

/-- A value as a document. -/
def document (v : Json) : String := textOf [v.pretty 0]

end Chargeback.Command

import Chargeback.Command.Documents
import Chargeback.Command.Rendering
import Chargeback.Command.Request
import Chargeback.Idle.Estimate
import Chargeback.Settings.Load

/-!
# Running commands

A command loads the configuration, reads its documents, computes, and prints the result as a whole
or fails. What the command line says takes precedence over the configuration. Failures are looked
for in a fixed order: the configuration, the grouping, the cost data, the discount, the sharing, and
the idle estimation at last.
-/

namespace Chargeback.Command

/-- A command may fail, and keeps its journal when it does. -/
abbrev CommandM := ExceptT Failure (Journaled (Effect Float))

/-- The discount of the command line, or else of the configuration. -/
def effectiveDiscount (asked : Option Float) (settings : Settings) : Except Failure Float :=
  validateDiscount (asked.getD settings.discount)

/-- The window of the command line, or else of the configuration. -/
def effectiveWindow (asked : Option String) (settings : Settings) : String :=
  asked.getD settings.window

/-- Estimates the idle coefficients for the billing totals at a path. -/
def estimateIdle (s : Surroundings) (settings : Settings) (inventory : Inventory Float)
    (billing : String) (discount : Float) (window : String) : CommandM (Index Float) :=
  (idleCoefficients inventory (BillingExport.source s billing) settings.customPricing discount
    window none).adapt (Failure.idleEstimation billing)

namespace ReportRequest

/-- The idle coefficients of a report, none without billing totals. -/
def coefficients (r : ReportRequest) (s : Surroundings) (settings : Settings)
    (inventory : Inventory Float) (discount : Float) : CommandM (Index Float) :=
  match r.billing with
  | none => pure ∅
  | some path =>
    estimateIdle s settings inventory path discount (effectiveWindow r.window settings)

/-- What the report is made with. -/
def options (r : ReportRequest) (s : Surroundings) (settings : Settings)
    (inventory : Inventory Float) : CommandM (ReportOptions Float) := do
  let discount ← effectiveDiscount r.discount settings
  let sharing ← settings.shared.policy r.share r.shareNamespaces r.shareLabels
  let idleCoefficients ← r.coefficients s settings inventory discount
  return {
    terms := { cadence := .ofName (r.rate.getD settings.rate), discount,
               customPricing := settings.customPricing }
    periods := r.dataLength
    idleCoefficients
    efficiency := r.efficiency
    timeSeries := r.timeSeries
    sharing := some sharing }

/-- Makes the report and prints it. -/
def run (r : ReportRequest) (s : Surroundings) (settings : Settings) (format : OutputFormat) :
    CommandM String := do
  let field ← (GroupField.ofName r.field).mapError Failure.grouping
  let inventory ← readCostData s r.input
  let options ← r.options s settings inventory
  let report ← liftM (report inventory field r.subfields options)
  return match format with
    | .json => document report.encode
    | .table => textOf (reportLines s field options.terms.cadence report)

end ReportRequest

/-- Estimates the idle coefficients and prints them. -/
def IdleRequest.run (r : IdleRequest) (s : Surroundings) (settings : Settings)
    (format : OutputFormat) : CommandM String := do
  let discount ← effectiveDiscount r.discount settings
  let inventory ← readCostData s r.input
  let window := effectiveWindow r.window settings
  let coefficients ← estimateIdle s settings inventory r.billing discount window
  return match format with
    | .json => document (encodeIdle coefficients)
    | .table => textOf (idleLines s window coefficients)

/-- Runs a command with the configuration loaded or not. -/
def Request.run (r : Request) (s : Surroundings) (settings : Except Failure Settings)
    (format : OutputFormat) : CommandM String := do
  let settings ← settings
  match r with
  | .aggregate r => r.run s settings format
  | .idle r => r.run s settings format

/-- Runs a command line, with a library that reads the configuration. -/
def Invocation.run (i : Invocation) (s : Surroundings)
    (library : Settings.Library := .standard) : CommandM String :=
  i.request.run s (Settings.load s i.config library) i.format

end Chargeback.Command

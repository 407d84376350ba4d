import Chargeback.Command.Switch
import Chargeback.Decimal.Whole
import Chargeback.Number.Instances

/-!
# Requests

What the command line asks for: a report of costs or the idle coefficients of clusters, and how to
write it. `Invocation.parse` reads the arguments; options for all commands stand in front of the
command.
-/

namespace Chargeback.Command

/-- How the result is written. -/
inductive OutputFormat where
  | table
  | json
  deriving DecidableEq, Repr

def OutputFormat.ofName? : String → Option OutputFormat
  | "table" => some .table
  | "json" => some .json
  | _ => none

/-- A report to be made. -/
structure ReportRequest where
  /-- The path of the cost data. -/
  input : String
  field : String := "namespace"
  subfields : List String := []
  rate : Option String := none
  discount : Option Float := none
  dataLength : Option Nat := none
  efficiency : Bool := false
  timeSeries : Bool := false
  /-- The path of the billing totals. -/
  billing : Option String := none
  window : Option String := none
  share : Bool := false
  shareNamespaces : List String := []
  shareLabels : List String := []
  deriving Repr

/-- Idle coefficients to be estimated. -/
structure IdleRequest where
  /-- The path of the cost data. -/
  input : String
  /-- The path of the billing totals. -/
  billing : String
  window : Option String := none
  discount : Option Float := none
  deriving Repr

inductive Request where
  | aggregate (r : ReportRequest)
  | idle (r : IdleRequest)
  deriving Repr

/-- All that the command line says. -/
structure Invocation where
  /-- The path of the configuration. -/
  config : Option String := none
  format : OutputFormat := .table
  /-- How much is logged, and how. -/
  verbose : Bool := false
  logJson : Bool := false
  metrics : Bool := false
  request : Request
  deriving Repr

/-- Reads a number. -/
def readNumber? (s : String) : Option Float := (Numeral.read s).toOption.map Binary64.ofNumeral

namespace ReportRequest

def switches : List Switch :=
  [{ name := "input", letter := 'i' }, { name := "field" }, { name := "subfields", takes := .values },
    { name := "rate" }, { name := "discount" }, { name := "data-length" },
    { name := "efficiency", takes := .nothing }, { name := "time-series", takes := .nothing },
    { name := "billing" }, { name := "window" }, { name := "share", takes := .nothing },
    { name := "share-namespaces", takes := .values }, { name := "share-labels", takes := .values }]

/-- The request of the options that have been given. -/
def ofGiven (given : Given) : Except Misuse ReportRequest := do
  return {
    input := ← given.required "input"
    field := (given.value? "field").getD "namespace"
    subfields := given.values "subfields"
    rate := given.value? "rate"
    discount := ← given.parsed? "discount" readNumber?
    dataLength := ← given.parsed? "data-length" readCount?
    efficiency := given.flag "efficiency"
    timeSeries := given.flag "time-series"
    billing := given.value? "billing"
    window := given.value? "window"
    share := given.flag "share"
    shareNamespaces := given.values "share-namespaces"
    shareLabels := given.values "share-labels" }

end ReportRequest

namespace IdleRequest

def switches : List Switch :=
  [{ name := "input", letter := 'i' }, { name := "billing" }, { name := "window" },
    { name := "discount" }]

/-- The request of the options that have been given. -/
def ofGiven (given : Given) : Except Misuse IdleRequest := do
  return {
    input := ← given.required "input"
    billing := ← given.required "billing"
    window := given.value? "window"
    discount := ← given.parsed? "discount" readNumber? }

end IdleRequest

/-- Reads the options of a command, after which nothing may come. -/
def commandOptions (switches : List Switch) (arguments : List String) : Except Misuse Given :=
  (Given.scan switches [] ∅ arguments).map Prod.fst

namespace Request

def commands : List String := ["aggregate", "idle"]

/-- Reads a command and its options. -/
def parse : List String → Except Misuse Request
  | "aggregate" :: arguments => do
    return .aggregate (← ReportRequest.ofGiven (← commandOptions ReportRequest.switches arguments))
  | "idle" :: arguments => do
    return .idle (← IdleRequest.ofGiven (← commandOptions IdleRequest.switches arguments))
  | argument :: _ => .error (.unexpected argument)
  | [] => .error .missingCommand

end Request

namespace Invocation

/-- The options for all commands. -/
def switches : List Switch :=
  [{ name := "config" }, { name := "format", letter := 'f' },
    { name := "verbose", letter := 'v', takes := .nothing },
    { name := "log-json", takes := .nothing }, { name := "metrics", takes := .nothing }]

/-- The environment variable that names the configuration if no option does. -/
def configVariable : String := "KCOST_CONFIG_FILE"

/-- Reads a command line. -/
def parse (environment : List (String × String)) (arguments : List String) :
    Except Misuse Invocation := do
  let (given, rest) ← Given.scan switches Request.commands ∅ arguments
  return {
    config := given.value? "config" <|> environment.lookup configVariable
    format := (← given.parsed? "format" OutputFormat.ofName?).getD .table
    verbose := given.flag "verbose"
    logJson := given.flag "log-json"
    metrics := given.flag "metrics"
    request := ← Request.parse rest }

/-- The paths of the documents that the command reads. -/
def documents (i : Invocation) : List String :=
  match i.request with
  | .aggregate r => r.input :: r.billing.toList
  | .idle r => [r.input, r.billing]

end Invocation

end Chargeback.Command

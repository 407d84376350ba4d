import Chargeback.Folder
import Chargeback.Main
import Chargeback.Proofs.Exact
import Chargeback.Proofs.Series.Weighted
import Chargeback.Proofs.Series.Accumulation
import Chargeback.Proofs.Series.Canonical
import Chargeback.Proofs.Series.Settled
import Chargeback.Proofs.Series.Splitting
import Chargeback.Proofs.Report.Pass
import Chargeback.Proofs.Report.Grouping
import Chargeback.Proofs.Pricing.Scaling
import Chargeback.Proofs.Report.Spending
import Chargeback.Proofs.Report.Resources
import Chargeback.Proofs.Report.Splitting
import Chargeback.Proofs.Idle.Run
import Chargeback.Proofs.Report.Conservation
import Chargeback.Proofs.Idle.Closure
import Chargeback.Proofs.Idle.Faults
import Chargeback.Proofs.Idle.Locality
import Chargeback.Proofs.Journal.Metrics
import Chargeback.Proofs.Report.Journal
import Chargeback.Proofs.Idle.Effects
import Chargeback.Proofs.Journal.Sessions
import Chargeback.Proofs.Number.Rounding
import Chargeback.Proofs.Number.Packing
import Chargeback.Proofs.Number.Division
import Chargeback.Proofs.Idle.Usable
import Chargeback.Proofs.Number.Addition
import Chargeback.Proofs.Idle.Reproducible
import Chargeback.Proofs.Number.Comparison
import Chargeback.Proofs.Report.Trace
import Chargeback.Proofs.Series.Rescaling
import Chargeback.Proofs.Report.Cadence
import Chargeback.Proofs.Report.Alignment
import Chargeback.Proofs.Json.Spelling
import Chargeback.Proofs.Json.Members
import Chargeback.Proofs.Report.Written
import Chargeback.Proofs.Decimal.Shortest
import Chargeback.Proofs.Json.Numbers
import Chargeback.Proofs.Number.Order
import Chargeback.Proofs.Number.Counts
import Chargeback.Proofs.Number.Magnitude
import Chargeback.Proofs.Series.Signs
import Chargeback.Proofs.Report.Signs
import Chargeback.Proofs.Series.OuterJoin
import Chargeback.Proofs.Series.Mirror
import Chargeback.Proofs.Billing.Amount
import Chargeback.Proofs.Billing.Grammar
import Chargeback.Proofs.Billing.Scan
import Chargeback.Proofs.Billing.Length
import Chargeback.Proofs.Report.Sharing
import Chargeback.Proofs.Command.Stages
import Chargeback.Proofs.Stepwise.Divisors
import Chargeback.Proofs.Report.Attribution
import Chargeback.Proofs.Report.Recomputed
import Chargeback.Proofs.Report.Shown
import Chargeback.Proofs.Pricing.Sources
import Chargeback.Proofs.Idle.Sources
import Chargeback.Proofs.Report.Sources
import Chargeback.Proofs.Grid
import Chargeback.Proofs.Report.Scoring
import Chargeback.Proofs.Display.Table
import Chargeback.Proofs.Command.Printed

import Chargeback.Number.Basic

/-!
# Cadence

Prices are hourly. A report gives either the cost accumulated over all samples or a cost per hour,
day or month.
-/

namespace Chargeback

/-- The period that reported costs refer to. -/
inductive Cadence where
  | cumulative
  | hourly
  | daily
  | monthly
  deriving DecidableEq, Repr, Inhabited

/-- Hours in a day. -/
def hoursPerDay {α : Type} [Number α] : α := Number.ofNat 24

/-- Hours in a month, by the convention of cloud bills. -/
def hoursPerMonth {α : Type} [Number α] : α := Number.ofNat 730

namespace Cadence

/-- The cadence of a name. The empty name is cumulative; an unknown one counts as hourly. -/
def ofName : String → Cadence
  | "" => .cumulative
  | "daily" => .daily
  | "monthly" => .monthly
  | _ => .hourly

def name : Cadence → String
  | .cumulative => ""
  | .hourly => "hourly"
  | .daily => "daily"
  | .monthly => "monthly"

/-- The name in a heading. -/
def title : Cadence → String
  | .cumulative => "cumulative"
  | c => c.name

/-- The factor from hourly prices to prices of this cadence. -/
def multiplier {α : Type} [Number α] : Cadence → α
  | .daily => hoursPerDay
  | .monthly => hoursPerMonth
  | .cumulative | .hourly => 1

def isCumulative (c : Cadence) : Bool := c == .cumulative

@[simp] theorem ofName_name (c : Cadence) : ofName c.name = c := by cases c <;> rfl

end Cadence

end Chargeback

import Chargeback.Decimal.Numeral

/-!
# The arithmetic of a report

Reports are computed over any type with the operations of `Number`. Two instances matter: binary64
floating point, in which reports are produced, and the rational numbers, in which the same formulas
are exact. Sums run from left to right and start at `Number.neutral`, the element that leaves every
number as it is when added on its left; in binary64 that is the negative zero.
-/

namespace Chargeback

/-- The operations that pricing, merging and idle estimation are computed with. -/
class Number (α : Type) extends Zero α, One α, Add α, Sub α, Mul α, Div α, LE α, LT α, BEq α where
  decidableLE : DecidableLE α
  decidableLT : DecidableLT α
  /-- A count as a number. -/
  ofNat : Nat → α
  /-- The number nearest to a decimal literal. -/
  ofNumeral : Numeral → α
  /-- The start of every sum. -/
  neutral : α
  isNaN : α → Bool
  isFinite : α → Bool
  /-- The nearest whole number, a half going away from zero. -/
  nearest : α → α

attribute [reducible, instance] Number.decidableLE Number.decidableLT

namespace Number

variable {α : Type} [Number α]

/-- The sum of a list, from left to right. -/
def sum (xs : List α) : α := xs.foldl (· + ·) neutral

@[simp] theorem sum_nil : sum ([] : List α) = neutral := rfl

@[simp] theorem sum_append_singleton (xs : List α) (x : α) : sum (xs ++ [x]) = sum xs + x := by
  simp [sum]

/-- Positive and finite: what a divisor has to be. -/
def isUsable (x : α) : Bool := decide (0 < x) && isFinite x

/-- Not a score: outside `[0, 1]`, or not a number. -/
def outsideUnit (x : α) : Bool := !(decide (0 ≤ x) && decide (x ≤ 1))

end Number

end Chargeback

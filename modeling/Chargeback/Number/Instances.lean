import Chargeback.Number.Basic
import Chargeback.Number.Binary64

/-!
# Binary64 and exact arithmetic

The two instances of `Number`. Exact arithmetic has neither infinities nor not-a-number: the
literals that name them read as zero there, and every number is finite.
-/

namespace Chargeback

/-- Reports are produced in binary64. -/
instance : Number Float where
  zero := 0
  one := 1
  decidableLE := inferInstance
  decidableLT := inferInstance
  ofNat := Float.ofNat
  ofNumeral := Binary64.ofNumeral
  neutral := -0.0
  isNaN := Float.isNaN
  isFinite := Float.isFinite
  nearest := Binary64.nearest

namespace Exact

/-- The value of a decimal literal, zero if it names no finite number. -/
def ofNumeral : Numeral → Rat
  | .scaled negative digits exponent =>
    let magnitude := mkRat (digits * Nat.pow 10 exponent.toNat : Nat) (Nat.pow 10 (-exponent).toNat)
    if negative then -magnitude else magnitude
  | _ => 0

/-- The nearest integer, a half going away from zero. -/
def nearest (x : Rat) : Rat :=
  if 0 ≤ x then ((x + 1 / 2).floor : Rat) else -((-x + 1 / 2).floor : Rat)

end Exact

/-- Laws of reports are stated in exact arithmetic. -/
instance : Number Rat where
  zero := 0
  one := 1
  decidableLE := inferInstance
  decidableLT := inferInstance
  ofNat n := (n : Rat)
  ofNumeral := Exact.ofNumeral
  neutral := 0
  isNaN _ := false
  isFinite _ := true
  nearest := Exact.nearest

end Chargeback

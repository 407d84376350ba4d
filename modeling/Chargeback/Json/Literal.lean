import Chargeback.Number.Binary64

/-!
# Number literals

A number literal is read in a fixed number of roundings, whatever its length: a significand of 64
bits is rounded to binary64 and then scaled by a rounded power of ten. The result can differ from
the number nearest to the literal in its last bits. A literal beyond the range of finite numbers has
no value.

Main statement: `significand_lt`, the digits that are kept fit into 64 bits.
-/

namespace Chargeback.Json.Literal

/-- What significands stay below. -/
def capacity : Nat := Nat.pow 2 64

/-- Appends digits to a significand up to the first that does not fit. The result counts the digits
that are left. -/
def absorb (n : Nat) : List Char → Nat × Nat
  | [] => (n, 0)
  | d :: ds =>
    let longer := 10 * n + Numeral.ofDigits [d]
    if longer < capacity then absorb longer ds else (n, ds.length + 1)

theorem absorb_lt {n : Nat} {ds : List Char} (h : n < capacity) :
    (absorb n ds).1 < capacity := by
  induction ds generalizing n with
  | nil => exact h
  | cons d ds ih =>
    simp only [absorb]
    split
    · next hlonger => exact ih hlonger
    · exact h

/-- The significand of the digits before and after the point, and the power of ten that it is to be
scaled by. Digits of either part may be left out: those before the point raise the power. -/
def significand (whole fraction : List Char) : Nat × Int :=
  let (n, dropped) := absorb 0 whole
  let (n, left) := absorb n fraction
  (n, (dropped : Int) + left - fraction.length)

theorem significand_lt (whole fraction : List Char) :
    (significand whole fraction).1 < capacity :=
  absorb_lt (absorb_lt (by decide))

/-- The greatest power of ten in the range of binary64. -/
def greatestPower : Nat := 308

/-- A power of ten, rounded. -/
def powerOfTen (k : Nat) : Float := Binary64.ofRatio false (Nat.pow 10 k) 1

/-- Scales a number by a power of ten, nothing if it gets too large. A power below the range is
divided by in several steps, of which all but the last use the greatest power. -/
def scale? (x : Float) (exponent : Int) : Option Float :=
  if exponent.natAbs ≤ greatestPower then
    if exponent < 0 then some (x / powerOfTen exponent.natAbs)
    else some (x * powerOfTen exponent.natAbs) |>.filter Float.isFinite
  else if x == 0 then some x
  else if exponent < 0 then scale? (x / powerOfTen greatestPower) (exponent + greatestPower)
  else none
termination_by exponent.natAbs
decreasing_by simp_all only [greatestPower]; omega

/-- The value of a literal without its sign. -/
def magnitude? (cs : List Char) : Option Float :=
  let (whole, fraction, rest) := Numeral.mantissa cs
  let (n, power) := significand whole fraction
  (Numeral.exponent? rest).bind fun e => scale? (Binary64.ofRatio false n 1) (e + power)

/-- The value of a literal. -/
def value? (literal : String) : Option Float :=
  match literal.toList with
  | '-' :: cs => (magnitude? cs).map fun x => -x
  | cs => magnitude? cs

end Chargeback.Json.Literal

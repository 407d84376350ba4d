import Chargeback.Decimal.Numeral

/-!
# The binary64 format

A floating-point number is taken apart into a sign, a significand and a power of two, so that
rounding to a whole number, reading a decimal literal and printing are exact computations on
natural numbers. `ofRatio` is the one place where a value is rounded to the format: to the nearest
representable number, a tie to the even significand, too large a value to infinity.
-/

namespace Chargeback

/-- The quotient `num / den` rounded to the nearest integer, a tie to the even one. -/
def roundDiv (num den : Nat) : Nat :=
  let q := num / den
  let r := num % den
  if 2 * r < den then q
  else if den < 2 * r then q + 1
  else q + q % 2

/-- What a binary64 bit pattern stands for. -/
inductive Binary64 where
  /-- The number `± significand · 2 ^ exponent`. -/
  | finite (negative : Bool) (significand : Nat) (exponent : Int)
  | infinite (negative : Bool)
  | notANumber
  deriving DecidableEq, Repr

namespace Binary64

/-- The least exponent of the format, that of the subnormal numbers. -/
def leastExponent : Int := -1074

/-- The bits of positive infinity. -/
def infinityBits : Nat := 0x7ff0000000000000

/-- Takes a number apart. The significand of a normal number has its leading bit. -/
def ofFloat (x : Float) : Binary64 :=
  let bits := x.toBits.toNat
  let negative := bits / Nat.pow 2 63 % 2 = 1
  let biased : Nat := bits / Nat.pow 2 52 % Nat.pow 2 11
  let fraction : Nat := bits % Nat.pow 2 52
  if biased = 2047 then
    if fraction = 0 then .infinite negative else .notANumber
  else if biased = 0 then .finite negative fraction leastExponent
  else .finite negative (fraction + Nat.pow 2 52) ((biased : Int) - 1075)

/-- The number with the given sign and the given bits below the sign. -/
def withSign (negative : Bool) (bits : Nat) : Float :=
  Float.ofBits (UInt64.ofNat (if negative then bits + Nat.pow 2 63 else bits))

/-- The greatest `k` with `2 ^ k ≤ num / den`, for positive arguments. -/
def floorLog2 (num den : Nat) : Int :=
  let k : Int := (num.log2 : Int) - den.log2
  if den * Nat.pow 2 k.toNat ≤ num * Nat.pow 2 (-k).toNat then k else k - 1

/-- The number nearest to `± num / den`. -/
def ofRatio (negative : Bool) (num den : Nat) : Float :=
  if num = 0 then withSign negative 0
  else
    let e := max (floorLog2 num den - 52) leastExponent
    let significand := roundDiv (num * Nat.pow 2 (-e).toNat) (den * Nat.pow 2 e.toNat)
    -- a normal significand brings its leading bit, which counts the exponent field up by one
    let bits := (e - leastExponent).toNat * Nat.pow 2 52 + significand
    withSign negative (min bits infinityBits)

/-- The number nearest to a decimal literal. Beyond the guards the power of ten alone decides. -/
def ofNumeral : Numeral → Float
  | .notANumber => Float.ofBits 0x7ff8000000000000
  | .infinite negative => withSign negative infinityBits
  | .scaled negative digits exponent =>
    if digits = 0 ∨ exponent < -(400 + digits.log2 : Int) then withSign negative 0
    else if 400 < exponent then withSign negative infinityBits
    else ofRatio negative (digits * Nat.pow 10 exponent.toNat) (Nat.pow 10 (-exponent).toNat)

/-- The whole number nearest to a magnitude, a half going up. -/
def nearestNat (significand : Nat) (exponent : Int) : Nat :=
  if 0 ≤ exponent then significand * Nat.pow 2 exponent.toNat
  else (2 * significand + Nat.pow 2 (-exponent).toNat) / Nat.pow 2 ((-exponent).toNat + 1)

/-- The nearest whole number, a half going away from zero. The sign stays, also on a zero. -/
def nearest (x : Float) : Float :=
  match ofFloat x with
  | .finite negative significand exponent =>
    if 0 ≤ exponent then x
    else
      let n := Float.ofNat (nearestNat significand exponent)
      if negative then -n else n
  | _ => x

end Binary64

end Chargeback

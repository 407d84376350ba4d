import Chargeback.Number.Binary64

/-!
# A fixed number of places

Amounts in tables have a fixed number of decimal places. The exact binary value is rounded, and a
tie goes to the even last digit. A negative number that rounds to zero keeps its sign.
-/

namespace Chargeback

/-- Writes `n` with its last `places` digits behind a point. -/
def pointBefore (places n : Nat) : String :=
  let digits := Nat.toDigits 10 n
  let padded := List.replicate (places + 1 - digits.length) '0' ++ digits
  let whole := padded.length - places
  if places = 0 then String.ofList padded
  else String.ofList (padded.take whole) ++ "." ++ String.ofList (padded.drop whole)

/-- The number with `places` decimal places. -/
def fixed (places : Nat) (x : Float) : String :=
  match Binary64.ofFloat x with
  | .notANumber => "NaN"
  | .infinite negative => if negative then "-inf" else "inf"
  | .finite negative significand exponent =>
    let scaled := roundDiv (significand * Nat.pow 2 exponent.toNat * Nat.pow 10 places)
      (Nat.pow 2 (-exponent).toNat)
    if negative then "-" ++ pointBefore places scaled else pointBefore places scaled

end Chargeback

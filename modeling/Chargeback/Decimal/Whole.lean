import Chargeback.Decimal.Numeral

/-!
# Whole numbers in text

Counts and whole settings are rows of digits with a sign, in the range of 64 bits.
-/

namespace Chargeback

/-- Reads a count below `2 ^ 64`. -/
def readCount? (s : String) : Option Nat :=
  (match s.toList with
    | '+' :: ds => Numeral.row? ds
    | ds => Numeral.row? ds).filter (· < Nat.pow 2 64)

/-- Whether a whole number fits into 64 bits with its sign. -/
def fitsSigned (n : Int) : Bool := -Int.pow 2 63 ≤ n && n < Int.pow 2 63

/-- Reads a whole number that fits into 64 bits with its sign. -/
def readWhole? (s : String) : Option Int := (Numeral.signedRow? s.toList).filter fitsSigned

end Chargeback

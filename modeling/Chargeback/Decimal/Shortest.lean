import Chargeback.Number.Binary64

/-!
# The shortest decimal

A finite positive number of the binary64 format is printed with the fewest significant digits that
read back as the same number, and of the decimals of that length the nearest one; which of two
equally near ones it is, is for the printer to say. The reals that read back as `m · 2 ^ q` form an
interval around it, with its ends if `m` is even; for one digit after another the two neighbours of
the number on the decimal grid are tested against it, in exact arithmetic. The number itself is on
the grid once there are enough digits, and seventeen always suffice to enter the interval.
-/

namespace Chargeback

/-- The number `digits · 10 ^ exponent`. -/
structure Decimal where
  digits : Nat
  exponent : Int
  deriving DecidableEq, Repr

/-- Which of two equally near decimals is taken. -/
inductive Tie where
  /-- The one with the even last digit. -/
  | even
  /-- The greater one. -/
  | greater
  deriving DecidableEq, Repr

namespace Decimal

/-- Drops zeros at the end of the digits, at most `fuel` of them. -/
def trim (fuel : Nat) (d : Decimal) : Decimal :=
  match fuel with
  | 0 => d
  | fuel + 1 =>
    if d.digits ≠ 0 ∧ d.digits % 10 = 0 then trim fuel ⟨d.digits / 10, d.exponent + 1⟩ else d

/-- The power of ten of the leading digit. -/
def magnitude (d : Decimal) : Int :=
  d.exponent + (Nat.toDigits 10 d.digits).length - 1

/-- Whether `a · 10 ^ t ≤ b · 2 ^ q`. -/
def leBinary (a : Nat) (t : Int) (b : Nat) (q : Int) : Bool :=
  a * Nat.pow 10 t.toNat * Nat.pow 2 (-q).toNat ≤ b * Nat.pow 2 q.toNat * Nat.pow 10 (-t).toNat

/-- Whether `b · 2 ^ q ≤ a · 10 ^ t`. -/
def geBinary (a : Nat) (t : Int) (b : Nat) (q : Int) : Bool :=
  b * Nat.pow 2 q.toNat * Nat.pow 10 (-t).toNat ≤ a * Nat.pow 10 t.toNat * Nat.pow 2 (-q).toNat

/-- The reals that read back as one binary number: four times its ends and itself, as multiples
of `2 ^ exponent`. -/
structure Interval where
  lower : Nat
  centre : Nat
  upper : Nat
  exponent : Int
  closed : Bool

/-- The interval of `m · 2 ^ q`. Below a power of two the neighbour is twice as close. -/
def Interval.around (m : Nat) (q : Int) : Interval where
  lower := if m = Nat.pow 2 52 ∧ q ≠ Binary64.leastExponent then 4 * m - 1 else 4 * m - 2
  centre := 4 * m
  upper := 4 * m + 2
  exponent := q - 2
  closed := m % 2 = 0

/-- Whether `n · 10 ^ t` lies in the interval. -/
def Interval.holds (i : Interval) (n : Nat) (t : Int) : Bool :=
  if i.closed then geBinary n t i.lower i.exponent && leBinary n t i.upper i.exponent
  else !leBinary n t i.lower i.exponent && !geBinary n t i.upper i.exponent

/-- The greatest multiple of `10 ^ t` that is at most the centre, in units of `10 ^ t`. -/
def Interval.below (i : Interval) (t : Int) : Nat :=
  (i.centre * Nat.pow 2 i.exponent.toNat * Nat.pow 10 (-t).toNat) /
    (Nat.pow 2 (-i.exponent).toNat * Nat.pow 10 t.toNat)

/-- The power of ten of the leading digit of the centre. -/
def Interval.magnitude (i : Interval) : Int :=
  let guess := ((i.centre.log2 + i.exponent) * 30103) / 100000
  if leBinary 1 (guess + 1) i.centre i.exponent then guess + 1
  else if leBinary 1 guess i.centre i.exponent then guess
  else guess - 1

/-- The nearer hit among the two neighbours of the centre on the grid of `10 ^ t`. -/
def Interval.neighbour? (i : Interval) (tie : Tie) (t : Int) : Option Nat :=
  let n := i.below t
  match i.holds n t, i.holds (n + 1) t with
  | false, false => none
  | true, false => some n
  | false, true => some (n + 1)
  | true, true =>
    -- the centre is compared with the middle of the two, at twice the scale
    if !leBinary (2 * n + 1) t (2 * i.centre) i.exponent then some n
    else if !geBinary (2 * n + 1) t (2 * i.centre) i.exponent then some (n + 1)
    else
      match tie with
      | .even => some (n + n % 2)
      | .greater => some (n + 1)

/-- Tries grids from `count` digits on, `fuel` of them. -/
def Interval.search (i : Interval) (tie : Tie) (top : Int) (count : Nat) : Nat → Decimal
  | 0 => ⟨i.below (top - count + 1), top - count + 1⟩
  | fuel + 1 =>
    match i.neighbour? tie (top - count + 1) with
    | some n => trim 20 ⟨n, top - count + 1⟩
    | none => i.search tie top (count + 1) fuel

/-- The shortest decimal that reads back as `m · 2 ^ q`, for positive `m`. -/
def shortest (tie : Tie) (m : Nat) (q : Int) : Decimal :=
  let i := Interval.around m q
  i.search tie i.magnitude 1 17

/-- The digits before and after the decimal point; at least one stands before it. -/
def positional (d : Decimal) : String × String :=
  let digits := Nat.toDigits 10 d.digits
  if 0 ≤ d.exponent then
    (String.ofList (digits ++ List.replicate d.exponent.toNat '0'), "")
  else
    let places := (-d.exponent).toNat
    let padded := List.replicate (places + 1 - digits.length) '0' ++ digits
    let whole := padded.length - places
    (String.ofList (padded.take whole), String.ofList (padded.drop whole))

/-- One digit, a point, the remaining digits if there are any, and the power of ten with its
sign. -/
def scientific (d : Decimal) : String :=
  let exponent := if d.magnitude < 0 then s!"e{d.magnitude}" else s!"e+{d.magnitude}"
  match Nat.toDigits 10 d.digits with
  | c :: c' :: cs => String.ofList (c :: '.' :: c' :: cs) ++ exponent
  | cs => String.ofList cs ++ exponent

/-- A number in full, without a point if it is whole: never an exponent. Of two equally near
decimals it takes the one further from zero. -/
def plain (x : Float) : String :=
  match Binary64.ofFloat x with
  | .notANumber => "NaN"
  | .infinite negative => if negative then "-inf" else "inf"
  | .finite negative m q =>
    let magnitude := if m = 0 then "0" else
      match (shortest .greater m q).positional with
      | (whole, "") => whole
      | (whole, fraction) => whole ++ "." ++ fraction
    if negative then "-" ++ magnitude else magnitude

end Decimal

end Chargeback

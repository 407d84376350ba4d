import Chargeback.Fault
import Chargeback.Number.Instances
import Chargeback.Text.Blank
import Chargeback.Text.Runs

/-!
# Billing windows

A window is a length of time such as `24h`, `1h30m` or `1.5d`: a row of amounts, each with its unit.
The amounts are added up in binary64 and rounded to whole milliseconds; a window that is not
positive, or too long for the format, is refused.
-/

namespace Chargeback

/-- The units of a window. -/
inductive TimeUnit where
  | millisecond
  | second
  | minute
  | hour
  | day
  deriving DecidableEq, Repr

namespace TimeUnit

def name : TimeUnit → String
  | .millisecond => "ms"
  | .second => "s"
  | .minute => "m"
  | .hour => "h"
  | .day => "d"

/-- The unit of a name. -/
def ofName? (name : String) : Option TimeUnit :=
  [millisecond, second, minute, hour, day].find? (·.name == name)

/-- The length of a unit in milliseconds. -/
def milliseconds : TimeUnit → Nat
  | .millisecond => 1
  | .second => 1000
  | .minute => 60 * 1000
  | .hour => 60 * 60 * 1000
  | .day => 24 * 60 * 60 * 1000

end TimeUnit

/-- A length of time. -/
structure Window where
  milliseconds : Nat
  deriving DecidableEq, Repr

namespace Window

/-- One amount with its unit. -/
structure Term where
  amount : Float
  unit : TimeUnit
  deriving Repr

/-- The milliseconds of a term. -/
def Term.milliseconds (t : Term) : Float := t.amount * Float.ofNat t.unit.milliseconds

/-- Whether a character belongs to an amount and not to a unit. -/
def isNumeric (c : Char) : Bool := c.isDigit || c == '.'

/-- The amount that a row of digits and points spells. -/
def amount? (cs : List Char) : Option Float :=
  (Numeral.read (String.ofList cs)).toOption.map Binary64.ofNumeral

/-- Splits a text into terms. -/
def terms? (cs : List Char) : Option (List Term) :=
  if cs = [] then some []
  else if _h : cs.takeWhile isNumeric = [] then none
  else
    let rest := cs.dropWhile isNumeric
    match amount? (cs.takeWhile isNumeric),
        TimeUnit.ofName? (String.ofList (rest.takeWhile fun c => !isNumeric c)) with
    | some amount, some unit =>
      (terms? (rest.dropWhile fun c => !isNumeric c)).map (⟨amount, unit⟩ :: ·)
    | _, _ => none
termination_by cs.length
decreasing_by
  exact Nat.lt_of_le_of_lt length_dropWhile_le (length_dropWhile_lt ‹_›)

/-- The milliseconds of a row of terms, from left to right. -/
def sum (ts : List Term) : Float := ts.foldl (fun acc t => acc + t.milliseconds) 0.0

/-- The greatest number of milliseconds that a window holds. -/
def greatest : Nat := Nat.pow 2 63 - 1

/-- The window of a number of milliseconds, if it is positive and finite. -/
def ofMilliseconds? (total : Float) : Option Window :=
  if Number.isUsable total then
    match Binary64.ofFloat total with
    | .finite _ significand exponent =>
      some ⟨min (Binary64.nearestNat significand exponent) greatest⟩
    | _ => none
  else none

/-- Reads a window, blanks at its ends aside. -/
def read? (s : String) : Option Window :=
  match trimBlanks s.toList with
  | [] => none
  | cs => (terms? cs).bind fun ts => ofMilliseconds? (sum ts)

/-- Reads a window, or says that the text is none. -/
def read (s : String) : Except Fault Window :=
  match read? s with
  | some w => .ok w
  | none => .error (.invalidWindow s)

/-- The length in hours. -/
def hours {α : Type} [Number α] (w : Window) : α :=
  Number.ofNat w.milliseconds / Number.ofNat TimeUnit.hour.milliseconds

end Window

end Chargeback

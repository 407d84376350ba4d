import Chargeback.Decimal.Fixed
import Chargeback.Display.Paint
import Chargeback.Number.Instances

/-!
# Amounts in tables

Costs have two places, and four if they are so small that two would hide them. Scores are whole
percentages, with a mark if they lie outside `[0, 1]`. The colour of a score or a coefficient says
how it is to be taken.
-/

namespace Chargeback.Display

/-- A cost. -/
def cost (x : Float) : String := if x != 0 && x.abs < 0.01 then fixed 4 x else fixed 2 x

/-- A ratio as a percentage. -/
def percent (x : Float) : String := fixed 0 (x * 100) ++ "%"

/-- How a score stands out: a bad one in red, a middling one in yellow, a good one in green, and one
that cannot be in bold red. -/
def scoreLook (x : Float) : Look :=
  if Number.outsideUnit x then { bold := true, hue := some .red }
  else if 0.6 ≤ x then { hue := some .green }
  else if 0.3 ≤ x then { hue := some .yellow }
  else { hue := some .red }

/-- A score, if it has been computed. -/
def score (colors : Bool) : Option Float → String
  | none => "-"
  | some x =>
    paint colors (scoreLook x) (if Number.outsideUnit x then percent x ++ "!" else percent x)

/-- The distance between one and the next greater number. -/
def unitGap : Float := 2.220446049250313e-16

/-- How an idle coefficient stands out: not if it is one, else by its side of one. -/
def coefficientLook (x : Float) : Look :=
  if (x - 1).abs < unitGap then {}
  else if x < 1 then { hue := some .yellow }
  else { hue := some .cyan }

/-- An idle coefficient. -/
def coefficient (colors : Bool) (x : Float) : String :=
  paint colors (coefficientLook x) (fixed 4 x)

end Chargeback.Display

/-!
# Colours

On a terminal, parts of the output stand out by colour or weight. A text is painted by wrapping it
into control sequences, unless colours are off or there is nothing to stand out by.
-/

namespace Chargeback

/-- A colour of text. -/
inductive Hue where
  | red
  | green
  | yellow
  | blue
  | cyan
  deriving DecidableEq, Repr

def Hue.code : Hue → String
  | .red => "31"
  | .green => "32"
  | .yellow => "33"
  | .blue => "34"
  | .cyan => "36"

/-- How a text stands out. -/
structure Look where
  bold : Bool := false
  hue : Option Hue := none
  deriving DecidableEq, Repr

/-- The codes of a look, the weight first. -/
def Look.codes (look : Look) : List String :=
  (if look.bold then ["1"] else []) ++ (look.hue.map Hue.code).toList

/-- The text in its look. -/
def paint (colors : Bool) (look : Look) (s : String) : String :=
  if colors && !look.codes.isEmpty then
    "\x1b[" ++ ";".intercalate look.codes ++ "m" ++ s ++ "\x1b[0m"
  else s

/-- Whether a variable is set to something other than zero. -/
def isSwitchedOn (environment : List (String × String)) (name : String) : Bool :=
  (environment.lookup name).any (· != "0")

/-- Whether colours are on, given whether the output goes to a terminal. The environment may force
them, or turn them off. -/
def colorsFor (environment : List (String × String)) (terminal : Bool) : Bool :=
  isSwitchedOn environment "CLICOLOR_FORCE" ||
    (terminal && (environment.lookup "NO_COLOR").isNone && environment.lookup "CLICOLOR" != some "0")

@[simp] theorem paint_false (look : Look) (s : String) : paint false look s = s := rfl

@[simp] theorem paint_plain (colors : Bool) (s : String) : paint colors {} s = s := by
  simp [paint, Look.codes]

end Chargeback

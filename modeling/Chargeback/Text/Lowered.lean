/-!
# Lower case

Names and words of configurations are compared in lower case. All that matter are ASCII, so that the
Kelvin sign is the only character beyond ASCII that needs one.
-/

namespace Chargeback

/-- A character in lower case, if that is ASCII. -/
def loweredChar (c : Char) : Char := if c = '\u212a' then 'k' else c.toLower

/-- A text in lower case. -/
def lowered (s : String) : String := s.map loweredChar

end Chargeback

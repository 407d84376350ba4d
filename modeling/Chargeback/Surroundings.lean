/-!
# Surroundings

A command is a function of its arguments and of what it can see of its surroundings, which do not
change while it runs.
-/

namespace Chargeback

/-- What a command can see of its surroundings. -/
structure Surroundings where
  /-- The text of the file at a path, if it can be read. -/
  file : String → Option String
  /-- The environment variables. -/
  environment : List (String × String)
  /-- The home directory. -/
  home : Option String
  /-- The time of the run, as it is to be printed. -/
  time : String
  /-- Whether the output is coloured. -/
  colors : Bool

end Chargeback

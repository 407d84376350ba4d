import Chargeback.Settings.Layer
import Chargeback.Text.Split

/-!
# Settings in the environment

Environment variables whose names start with `KCOST_`, in any case, are settings. Two underscores
separate the names of nested tables. A value is taken for a truth value or a number if it can be
one; the lists among the settings are given as items between commas.
-/

namespace Chargeback.Environment

/-- The start of the names of settings, in lower case. -/
def lead : String := "kcost_"

/-- The settings that are lists. -/
def lists : List String :=
  ["shared_resources.namespaces", "shared_resources.label_names", "shared_resources.label_values"]

/-- Replaces two underscores by a point, from left to right. -/
def pointed : List Char → List Char
  | '_' :: '_' :: cs => '.' :: pointed cs
  | c :: cs => c :: pointed cs
  | [] => []

/-- The name of the setting that is held by the variable `key`. -/
def name? (key : String) : Option String :=
  let cs := (lowered key).toList
  if lead.toList.isPrefixOf cs then some (String.ofList (pointed (cs.drop lead.length))) else none

/-- The value of a variable that holds the setting of a name. -/
def setting (name value : String) : Setting :=
  if lowered value = "true" then .bool true
  else if lowered value = "false" then .bool false
  else
    match readWhole? value, Numeral.read value with
    | some n, _ => .whole n
    | none, .ok numeral => .real (Binary64.ofNumeral numeral)
    | none, .error _ =>
      if lists.contains name then .list ((pieces ',' value).map .text) else .text value

/-- The settings among the variables. -/
def layer (environment : List (String × String)) : List (String × Setting) :=
  environment.filterMap fun v => (name? v.1).map fun name => (name, setting name v.2)

end Chargeback.Environment

import Chargeback.Decimal.Shortest
import Chargeback.Decimal.Whole
import Chargeback.Fields
import Chargeback.Index
import Chargeback.Json.Literal
import Chargeback.Json.Value
import Chargeback.Text.Lowered

/-!
# Settings as they are written

Whatever the format of a configuration is, it is read into a tree of settings. A setting is then
taken for what is needed: a number for a text, a text for a truth value, and so on, as long as it
can be understood that way. Nothing is taken for a list but a list, and null stands for nothing.
-/

namespace Chargeback

/-- A value in a configuration. -/
inductive Setting where
  | null
  | bool (b : Bool)
  | whole (n : Int)
  | real (x : Float)
  | text (s : String)
  | list (items : List Setting)
  | table (members : List (String × Setting))
  deriving Repr

namespace Setting

/-! ## Taking a setting for what is needed -/

def text? : Setting → Option String
  | .text s => some s
  | .bool b => some (if b then "true" else "false")
  | .whole n => some (toString n)
  | .real x => some (Decimal.plain x)
  | _ => none

/-- A truth value: a number other than zero, or a word for it in any case. -/
def bool? : Setting → Option Bool
  | .bool b => some b
  | .whole n => some (n != 0)
  | .real x => some (x != 0)
  | .text s =>
    if ["1", "true", "on", "yes"].contains (lowered s) then some true
    else if ["0", "false", "off", "no"].contains (lowered s) then some false
    else none
  | _ => none

/-- A number; of the words for truth values, one or zero. -/
def number? : Setting → Option Float
  | .real x => some x
  | .whole n => some (Binary64.ofNumeral (.scaled (n < 0) n.natAbs 0))
  | .bool b => some (if b then 1 else 0)
  | .text s =>
    if ["true", "on", "yes"].contains (lowered s) then some 1
    else if ["false", "off", "no"].contains (lowered s) then some 0
    else (Numeral.read s).toOption.map Binary64.ofNumeral
  | _ => none

/-- A list of texts. -/
def texts? : Setting → Option (List String)
  | .list items => items.mapM text?
  | _ => none

/-- A setting that may be null. -/
def nullable? {β : Type} (decode : Setting → Option β) : Setting → Option (Option β)
  | .null => some none
  | v => (decode v).map some

/-- The fields of a record: the members of a table, or the items of a list in order. -/
def fields? (fields : List Field) : Setting → Option (Found Setting)
  | .table members => some (.ofMembers fields members)
  | .list items => some (.ofItems fields items)
  | _ => none

/-! ## Settings in JSON -/

mutual

/-- The setting of a JSON value. A number without a fraction is whole if it fits; one that is too
large for any number is refused. Members are in the order of their names, each with its last
value. -/
def ofJson? : Json → Option Setting
  | .null => some .null
  | .bool b => some (.bool b)
  | .number literal =>
    match (if literal = "-0" then none else readWhole? literal) with
    | some n => some (.whole n)
    | none => (Json.Literal.value? literal).map .real
  | .string s => some (.text s)
  | .broken => none
  | .array items => (ofItems? items).map .list
  | .object members => (ofMembers? members).map fun ms => .table (Index.ofList ms).entries

/-- The settings of items. -/
def ofItems? : List Json → Option (List Setting)
  | [] => some []
  | v :: vs => do return (← ofJson? v) :: (← ofItems? vs)

/-- The settings of members. -/
def ofMembers? : List (String × Json) → Option (List (String × Setting))
  | [] => some []
  | (name, v) :: ms => do return (name, ← ofJson? v) :: (← ofMembers? ms)

end

end Setting

end Chargeback

import Chargeback.Assoc
import Chargeback.Fields
import Chargeback.Json.Literal
import Chargeback.Json.Value
import Chargeback.Number.Instances

/-!
# Decoding JSON

A decoder takes a value of its own kind and refuses any other. A record may be written as an object,
where unknown members are ignored and a field must not occur twice under any of its names, or as an
array of its fields in order, where fields at the end may be left out. Whether a field may be
missing is up to the field.
-/

namespace Chargeback.Json

variable {β : Type}

/-- Reads one kind of value. -/
abbrev Decoder (β : Type) := Json → Option β

def string? : Decoder String
  | .string s => some s
  | _ => none

def bool? : Decoder Bool
  | .bool b => some b
  | _ => none

/-- A number of any form in the range of finite numbers. -/
def float? : Decoder Float
  | .number literal => Literal.value? literal
  | _ => none

/-- A value that may be null. -/
def nullable? (decode : Decoder β) : Decoder (Option β)
  | .null => some none
  | v => (decode v).map some

/-- An array of values of one kind. -/
def list? (decode : Decoder β) : Decoder (List β)
  | .array items => items.mapM decode
  | _ => none

/-- An object whose members are of one kind. Of members under one key the last counts, but all have
to be of the kind. -/
def assoc? (decode : Decoder β) : Decoder (Assoc β)
  | .object members => (members.mapM fun m => (decode m.2).map (m.1, ·)).map Assoc.ofList
  | _ => none

/-! ## Records -/

/-- Finds the fields of a record. -/
def fields? (fields : List Field) : Decoder (Found Json)
  | .object members =>
    let found := Found.ofMembers fields members
    if (found.map Prod.fst).Nodup then some found else none
  | .array items => if items.length ≤ fields.length then some (.ofItems fields items) else none
  | _ => none

end Chargeback.Json

/-!
# JSON values

A value keeps what a reader may need later: numbers as they are written, members of objects in their
order and with repetitions. A text in which an escape names half of a surrogate pair stands for no
string; it may still occur where its content is of no interest, and is read as `broken`.
-/

namespace Chargeback

/-- A JSON value. -/
inductive Json where
  | null
  | bool (b : Bool)
  /-- A number, as it is written. -/
  | number (literal : String)
  | string (s : String)
  /-- A string, or an object with a key, that holds half of a surrogate pair. -/
  | broken
  | array (items : List Json)
  | object (members : List (String × Json))
  deriving Repr

namespace Json

/-- A row of strings. -/
def strings (ss : List String) : Json := .array (ss.map .string)

mutual

/-- How deeply arrays and objects are nested. -/
def depth : Json → Nat
  | .array items => depthOfItems items + 1
  | .object members => depthOfMembers members + 1
  | _ => 0

/-- The depth of the deepest item. -/
def depthOfItems : List Json → Nat
  | [] => 0
  | v :: vs => max v.depth (depthOfItems vs)

/-- The depth of the deepest member. -/
def depthOfMembers : List (String × Json) → Nat
  | [] => 0
  | (_, v) :: ms => max v.depth (depthOfMembers ms)

end

mutual

/-- Whether some string in the value is broken. -/
def hasBroken : Json → Bool
  | .broken => true
  | .array items => itemsHaveBroken items
  | .object members => membersHaveBroken members
  | _ => false

/-- Whether some item has a broken string. -/
def itemsHaveBroken : List Json → Bool
  | [] => false
  | v :: vs => v.hasBroken || itemsHaveBroken vs

/-- Whether some member has a broken string. -/
def membersHaveBroken : List (String × Json) → Bool
  | [] => false
  | (_, v) :: ms => v.hasBroken || membersHaveBroken ms

end

end Json

end Chargeback

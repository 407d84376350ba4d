import Chargeback.Assoc
import Chargeback.Settings.Path
import Chargeback.Settings.Setting

/-!
# Layers of settings

A configuration is put together from layers; a later layer takes precedence. A table is merged into
what is there member by member, anything else replaces it. Names are in lower case from then on.
The name of a setting is a path into tables and lists; names inside its tables stand for themselves.
-/

namespace Chargeback.Setting

/-- The members of a table; anything else has none. -/
def members : Setting → List (String × Setting)
  | .table ms => ms
  | _ => []

/-- The member of a name. -/
def member? (v : Setting) (name : String) : Option Setting := v.members.lookup name

/-- Puts `v` under a name, in a table that takes the place of anything else. -/
def put (target : Setting) (name : String) (v : Setting) : Setting :=
  .table (Assoc.put name v target.members)

/-- The items of a list; anything else has none. -/
def items : Setting → List Setting
  | .list vs => vs
  | _ => []

/-- The place of an item, which a negative index counts from the end. -/
def place (target : Setting) (index : Int) : Nat :=
  if 0 ≤ index then index.toNat else target.items.length - index.natAbs

/-- The item at an index. -/
def item? (target : Setting) (index : Int) : Option Setting :=
  target.items[target.place index]?

mutual

/-- Merges a setting into the member of a name. -/
def merge (target : Setting) (name : String) : Setting → Setting
  | .table members =>
    target.put (lowered name) (mergeAll ((target.member? (lowered name)).getD (.table [])) members)
  | v => target.put (lowered name) v

/-- Merges members, one after another. -/
def mergeAll (target : Setting) : List (String × Setting) → Setting
  | [] => target
  | (name, v) :: ms => mergeAll (merge target name v) ms

end

/-- Replaces an item of a list, in a list that takes the place of anything else. A list that is too
short is filled up with null. -/
def putItem (target : Setting) (index : Int) (v : Setting) : Setting :=
  let n := target.place index
  let missing := n + 1 - target.items.length
  .list ((target.items ++ List.replicate missing Setting.null).set n v)

/-- Puts a setting at the end of a path: it is merged into a member, and it replaces an item. What
stands in the way becomes a table or a list. -/
def mergeAt (target v : Setting) : Path → Setting
  | [] => v
  | [.member name] => target.merge name v
  | .member name :: path => target.put name (mergeAt ((target.member? name).getD .null) v path)
  | .item index :: path => target.putItem index (mergeAt ((target.item? index).getD .null) v path)

/-- Puts a layer on top. -/
def overlay (target : Setting) (layer : List (String × Setting)) : Setting :=
  layer.foldl (fun target m => target.mergeAt m.2 (.ofName m.1)) target

@[simp] theorem overlay_nil (target : Setting) : target.overlay [] = target := rfl

theorem overlay_append (target : Setting) (l₁ l₂ : List (String × Setting)) :
    target.overlay (l₁ ++ l₂) = (target.overlay l₁).overlay l₂ := List.foldl_append

/-- A name outside paths keeps what is put under it. -/
theorem member?_put (target : Setting) (name : String) (v : Setting) :
    (target.put name v).member? name = some v := by
  change (Assoc.put name v target.members).lookup name = some v
  induction target.members with
  | nil => simp [Assoc.put]
  | cons p l ih =>
    unfold Assoc.put
    split
    · next h => subst h; simp
    · next h => rw [List.lookup_cons]; grind

end Chargeback.Setting

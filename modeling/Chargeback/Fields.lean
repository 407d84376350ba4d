/-!
# Fields of records

A record read from a document has named fields. A field may go by a second name, and one that is
missing may have a default; `Found` holds the fields that are there, under their own names.
-/

namespace Chargeback

variable {β γ : Type}

/-- A field of a record, under its own name or another one. -/
structure Field where
  name : String
  otherName : Option String := none

/-- Whether a member under this key is the field. -/
def Field.accepts (f : Field) (key : String) : Bool := key == f.name || f.otherName == some key

instance : Coe String Field := ⟨fun name => { name }⟩

/-- The fields that are there, by name. -/
abbrev Found (γ : Type) := List (String × γ)

namespace Found

/-- The members of an object that are fields. -/
def ofMembers (fields : List Field) (members : List (String × γ)) : Found γ :=
  members.filterMap fun m => (fields.find? (·.accepts m.1)).map fun f => (f.name, m.2)

/-- A row of items as the first fields, in order. -/
def ofItems (fields : List Field) (items : List γ) : Found γ := (fields.map Field.name).zip items

/-- A field that has to be there. -/
def required (found : Found γ) (name : String) (decode : γ → Option β) : Option β :=
  (found.lookup name).bind decode

/-- A field that has a default. -/
def withDefault (found : Found γ) (name : String) (decode : γ → Option β) (default : β) :
    Option β :=
  match found.lookup name with
  | some v => decode v
  | none => some default

end Found

end Chargeback

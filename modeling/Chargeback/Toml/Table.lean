import Chargeback.Index
import Chargeback.Settings.Setting

/-!
# Tables of a TOML document

A document defines tables by headers and by keys with points. No key is defined twice, and a table
is defined in one place: a header may complete a table that so far is only part of the path of
another header, and a key with points may add to a table that such keys have made. A header of two
brackets adds a table to a list of tables; the last one is meant where a path leads through the
list.
-/

namespace Chargeback.Toml

/-- How a table has come about. -/
inductive Origin where
  /-- It is part of the path of a header. -/
  | implied
  /-- It has a header of its own. -/
  | declared
  /-- It is part of a key with points. -/
  | dotted
  deriving DecidableEq, Repr

/-- What is defined under a key. -/
inductive Node where
  | value (v : Setting)
  | table (origin : Origin) (members : List (String × Node))
  /-- A list of tables: those that are complete, and the members of the last one. -/
  | tables (complete : List Setting) (last : List (String × Node))

/-- The members of a table. -/
abbrev Members := List (String × Node)

mutual

/-- What a node stands for in the end. -/
def Node.setting : Node → Setting
  | .value v => v
  | .table _ members => .table (settings members)
  | .tables complete last => .list (complete ++ [.table (settings last)])

/-- The settings of members, in the order of their keys. -/
def settings (members : Members) : List (String × Setting) :=
  (Index.ofList (memberSettings members)).entries

/-- The setting of every member. -/
def memberSettings : Members → List (String × Setting)
  | [] => []
  | (name, n) :: ms => (name, n.setting) :: memberSettings ms

end

/-- Replaces what is under a key, if anything, by its image under `f`; at the end if it is new. -/
def alter (name : String) (f : Option Node → Option Node) : Members → Option Members
  | [] => (f none).map fun n => [(name, n)]
  | (m, n) :: ms =>
    if m = name then (f (some n)).map fun n => (m, n) :: ms
    else (alter name f ms).map ((m, n) :: ·)

/-- Defines a value under a key within the tables of a path. -/
def assign (path : List String) (name : String) (v : Setting) (members : Members) :
    Option Members :=
  match path with
  | [] =>
    alter name (fun
      | none => some (.value v)
      | some _ => none) members
  | step :: path =>
    alter step (fun
      | none => (assign path name v []).map (.table .dotted)
      | some (.table .dotted ms) => (assign path name v ms).map (.table .dotted)
      | some (.table .implied ms) =>
        if path.isEmpty then none else (assign path name v ms).map (.table .implied)
      | some (.tables complete ms) =>
        if path.isEmpty then none else (assign path name v ms).map (.tables complete)
      | some _ => none) members

/-- A table that a header declares. -/
def declaredTable : Option Node → Option Node
  | none => some (.table .declared [])
  | some (.table .implied ms) => some (.table .declared ms)
  | some _ => none

/-- A list of tables to which a header adds one. -/
def extendedTables : Option Node → Option Node
  | none => some (.tables [] [])
  | some (.tables complete last) => some (.tables (complete ++ [.table (settings last)]) [])
  | some _ => none

/-- Declares what is at the end of a path by its header. -/
def declare (f : Option Node → Option Node) (path : List String) (members : Members) :
    Option Members :=
  match path with
  | [] => some members
  | [name] => alter name f members
  | step :: path =>
    alter step (fun
      | none => (declare f path []).map (.table .implied)
      | some (.table origin ms) => (declare f path ms).map (.table origin)
      | some (.tables complete ms) => (declare f path ms).map (.tables complete)
      | some (.value _) => none) members

/-- Changes the members of the table that a header has declared. -/
def within (path : List String) (f : Members → Option Members) (members : Members) :
    Option Members :=
  match path with
  | [] => f members
  | step :: path =>
    alter step (fun
      | some (.table origin ms) => (within path f ms).map (.table origin)
      | some (.tables complete ms) => (within path f ms).map (.tables complete)
      | _ => none) members

end Chargeback.Toml

import Chargeback.Decimal.Whole
import Chargeback.Text.Lowered
import Chargeback.Text.Runs

/-!
# Paths of settings

The name of a setting may lead into tables and lists: parts stand between points, and an index in
brackets follows the part whose item it is. A name that does not read that way is one part. Names
are compared in lower case.
-/

namespace Chargeback

/-- A step into a setting. -/
inductive Step where
  | member (name : String)
  /-- An item of a list; a negative index counts from the end. -/
  | item (index : Int)
  deriving DecidableEq, Repr

/-- Steps into a setting. -/
abbrev Path := List Step

namespace Path

/-- Whether a character can be in a part of a name. -/
def isPart (c : Char) : Bool := c.isAlphanum || c == '_' || c == '-' || c == ' '

/-- Whether a character is a blank beside an index. -/
def isSpace (c : Char) : Bool := c == ' ' || c == '\t'

/-- Whether a character can be in an index. -/
def isIndexPart (c : Char) : Bool := c.isDigit || c == '-'

/-- An index up to its closing bracket, and what follows that. -/
def index? (cs : List Char) : Option (Int × List Char) :=
  let row := (cs.dropWhile isSpace).takeWhile isIndexPart
  match ((cs.dropWhile isSpace).dropWhile isIndexPart).dropWhile isSpace with
  | ']' :: rest => ((Numeral.signedRow? row).filter fitsSigned).map (·, rest)
  | _ => none

theorem length_index? {cs : List Char} {r : Int × List Char} (h : index? cs = some r) :
    r.2.length < cs.length := by
  have h₁ : (cs.dropWhile isSpace).length ≤ _ := length_dropWhile_le
  have h₂ : ((cs.dropWhile isSpace).dropWhile isIndexPart).length ≤ _ := length_dropWhile_le
  have h₃ : (((cs.dropWhile isSpace).dropWhile isIndexPart).dropWhile isSpace).length ≤ _ :=
    length_dropWhile_le
  unfold index? at h
  split at h
  · next rest hrest =>
    obtain ⟨n, -, rfl⟩ := Option.map_eq_some_iff.mp h
    rw [hrest] at h₃
    simp only [List.length_cons] at h₃
    simp only
    omega
  · simp at h

/-- The steps after the first part of a name. -/
def steps? (cs : List Char) : Option Path :=
  match cs with
  | [] => some []
  | '.' :: cs =>
    if cs.takeWhile isPart = [] then none
    else
      (steps? (cs.dropWhile isPart)).map (.member (String.ofList (cs.takeWhile isPart)) :: ·)
  | '[' :: cs =>
    match _h : index? cs with
    | some r => (steps? r.2).map (.item r.1 :: ·)
    | none => none
  | _ => none
termination_by cs.length
decreasing_by
  · have : (cs.dropWhile isPart).length ≤ _ := length_dropWhile_le
    simp only [List.length_cons]
    omega
  · have := length_index? _h
    simp only [List.length_cons]
    omega

/-- The path that a name stands for. -/
def ofName (name : String) : Path :=
  -- the first part reads as one behind a point
  (steps? ('.' :: (lowered name).toList)).getD [.member (lowered name)]

end Path

end Chargeback

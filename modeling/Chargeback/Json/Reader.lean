import Chargeback.Json.Token
import Chargeback.Json.Value
import Chargeback.Text.Runs

/-!
# Reading JSON

A text is split into tokens, and a machine with a stack of unfinished containers takes the tokens
one after another. `Json.parse?` reads a text that is one value with nothing but blanks around it.
-/

namespace Chargeback.Json

/-! ## Splitting into tokens -/

namespace Token

theorem length_word? {cs : List Char} {r : Token × List Char} (h : word? cs = some r) :
    r.2.length < cs.length := by
  unfold word? at h
  split at h <;> cases h <;> simp only [List.length_cons] <;> omega

theorem length_next? {cs : List Char} {r : Token × List Char} (h : next? cs = some r) :
    r.2.length < cs.length := by
  unfold next? at h
  split at h
  case h_7 rest =>
    obtain ⟨s, hs, rfl⟩ := Option.map_eq_some_iff.mp h
    exact Nat.lt_succ_of_lt (length_string? hs)
  case h_8 =>
    split at h
    · exact length_word? h
    · next hrun =>
      cases h
      refine length_dropWhile_lt fun hnil => hrun ?_
      simp [hnil]
  all_goals cases h; simp

/-- The tokens of a text in front of which `acc` has been read, latest first. -/
def lex (acc : List Token) (cs : List Char) : Option (List Token) :=
  match _h : cs.dropWhile isSpace with
  | [] => some acc.reverse
  | c :: rest =>
    match _hnext : next? (c :: rest) with
    | some (t, rest) => lex (t :: acc) rest
    | none => none
termination_by cs.length
decreasing_by
  have := length_next? ‹_›
  have : (cs.dropWhile isSpace).length ≤ cs.length := length_dropWhile_le
  simp_all only [List.length_cons]
  omega

end Token

/-! ## Putting values together -/

/-- A container that is being read: what there is of it, latest first, up to the value to come. -/
inductive Frame where
  | array (items : List Json)
  | object (members : List (Option String × Json)) (key : Option String)

/-- What may come next. -/
inductive Phase where
  /-- A value, or the end of an array that has just been opened. -/
  | value (opened : Bool)
  /-- The key of a member, or the end of an object that has just been opened. -/
  | key (members : List (Option String × Json)) (opened : Bool)
  /-- The colon between the key and the value of a member. -/
  | colon (members : List (Option String × Json)) (key : Option String)
  /-- What may follow a value. -/
  | done (v : Json)

/-- The object of its members, given latest first. -/
def ofMembers (members : List (Option String × Json)) : Json :=
  match members.reverse.mapM fun m => m.1.map (·, m.2) with
  | some ms => .object ms
  | none => .broken

/-- The value that a token is on its own. -/
def ofToken? : Token → Option Json
  | .null => some .null
  | .bool b => some (.bool b)
  | .number literal => some (.number literal)
  | .text (some s) => some (.string s)
  | .text none => some .broken
  | _ => none

/-- Takes one token. -/
def step : Phase × List Frame → Token → Option (Phase × List Frame)
  | (.value _, stack), .openArray => some (.value true, .array [] :: stack)
  | (.value _, stack), .openObject => some (.key [] true, stack)
  | (.value true, .array [] :: stack), .closeArray => some (.done (.array []), stack)
  | (.value _, stack), t => (ofToken? t).map fun v => (.done v, stack)
  | (.key members _, stack), .text key => some (.colon members key, stack)
  | (.key [] true, stack), .closeObject => some (.done (.object []), stack)
  | (.colon members key, stack), .colon => some (.value false, .object members key :: stack)
  | (.done v, .array items :: stack), .comma => some (.value false, .array (v :: items) :: stack)
  | (.done v, .array items :: stack), .closeArray =>
    some (.done (.array (v :: items).reverse), stack)
  | (.done v, .object members key :: stack), .comma => some (.key ((key, v) :: members) false, stack)
  | (.done v, .object members key :: stack), .closeObject =>
    some (.done (ofMembers ((key, v) :: members)), stack)
  | _, _ => none

/-- The value that a row of tokens spells. -/
def ofTokens? (tokens : List Token) : Option Json :=
  match tokens.foldlM step (.value false, []) with
  | some (.done v, []) => some v
  | _ => none

/-- Reads a text. -/
def parse? (text : String) : Option Json := (Token.lex [] text.toList).bind ofTokens?

end Chargeback.Json

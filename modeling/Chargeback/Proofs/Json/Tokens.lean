import Mathlib.Data.List.Basic
import Chargeback.Json.Reader

/-!
# The tokens of a value

`Json.tokens` spells a value, and the machine that puts values together takes exactly one value from
its spelling, whatever it is in the middle of (`takes_tokens`). So a row of tokens that spells
a value is read as that value (`ofTokens?_tokens`).
-/

namespace Chargeback.Json

/-! ## Values with a spelling -/

/-- A value that some text spells: its numbers are written as numbers and no string is broken. -/
inductive IsSpelled : Json → Prop
  | null : IsSpelled .null
  | bool (b : Bool) : IsSpelled (.bool b)
  | number {literal : String} (h : Token.isNumber literal.toList = true) :
    IsSpelled (.number literal)
  | string (s : String) : IsSpelled (.string s)
  | array {items : List Json} (h : ∀ v ∈ items, IsSpelled v) : IsSpelled (.array items)
  | object {members : List (String × Json)} (h : ∀ m ∈ members, IsSpelled m.2) :
    IsSpelled (.object members)

mutual

/-- The tokens that spell a value. A broken string is spelled as null. -/
def tokens : Json → List Token
  | .null | .broken => [.null]
  | .bool b => [.bool b]
  | .number literal => [.number literal]
  | .string s => [.text (some s)]
  | .array items => .openArray :: ([.comma].intercalate (itemTokens items) ++ [.closeArray])
  | .object members =>
    .openObject :: ([.comma].intercalate (memberTokens members) ++ [.closeObject])

/-- The tokens of each item. -/
def itemTokens : List Json → List (List Token)
  | [] => []
  | v :: vs => v.tokens :: itemTokens vs

/-- The tokens of each member. -/
def memberTokens : List (String × Json) → List (List Token)
  | [] => []
  | (k, v) :: ms => (.text (some k) :: .colon :: v.tokens) :: memberTokens ms

end

/-! ## The machine -/

/-- Taking the spelling of a value leaves the machine with this value done, in whatever container
it is. -/
def Takes (ts : List Token) (v : Json) : Prop :=
  ∀ (opened : Bool) (stack : List Frame) (rest : List Token),
    (ts ++ rest).foldlM step (.value opened, stack) = rest.foldlM step (.done v, stack)

theorem intercalate_comma (ts : List Token) (tss : List (List Token)) :
    [Token.comma].intercalate (ts :: tss) = ts ++ tss.flatMap (.comma :: ·) := by
  induction tss generalizing ts with
  | nil => simp
  | cons us tss ih => rw [List.intercalate_cons_cons, ih, List.flatMap_cons, List.append_assoc]; rfl

/-- The rest of an array after one of its items. -/
theorem foldlM_step_items {items : List Json} (h : ∀ v ∈ items, Takes v.tokens v) (v : Json)
    (taken : List Json) (stack : List Frame) (rest : List Token) :
    ((itemTokens items).flatMap (.comma :: ·) ++ .closeArray :: rest).foldlM step
        (.done v, .array taken :: stack) =
      rest.foldlM step (.done (.array (taken.reverse ++ v :: items)), stack) := by
  induction items generalizing v taken with
  | nil =>
    change rest.foldlM step (.done (.array (v :: taken).reverse), stack) = _
    rw [List.reverse_cons]
  | cons w items ih =>
    obtain ⟨hw, hitems⟩ := List.forall_mem_cons.mp h
    rw [itemTokens, List.flatMap_cons, List.append_assoc]
    change (w.tokens ++ _).foldlM step (.value false, .array (v :: taken) :: stack) = _
    rw [hw, ih hitems, List.reverse_cons, List.append_assoc]
    rfl

theorem takes_array {items : List Json} (h : ∀ v ∈ items, Takes v.tokens v) :
    Takes (tokens (.array items)) (.array items) := by
  intro opened stack rest
  rw [tokens, List.cons_append, List.append_assoc]
  cases items with
  | nil => rfl
  | cons v items =>
    obtain ⟨hv, hitems⟩ := List.forall_mem_cons.mp h
    rw [itemTokens, intercalate_comma, List.append_assoc]
    change (v.tokens ++ _).foldlM step (.value true, .array [] :: stack) = _
    rw [hv, List.singleton_append, foldlM_step_items hitems]
    rfl

/-- A member whose key is all there. -/
def keyed (m : String × Json) : Option String × Json := (some m.1, m.2)

theorem ofMembers_keyed (members : List (String × Json)) :
    ofMembers (members.reverse.map keyed) = .object members := by
  have hall (ms : List (String × Json)) :
      (ms.map keyed).mapM (fun m => m.1.map (·, m.2)) = some ms := by
    induction ms with
    | nil => rfl
    | cons m ms ih =>
      rw [List.map_cons, List.mapM_cons, ih]
      rfl
  rw [ofMembers, ← List.map_reverse, List.reverse_reverse, hall]

/-- The rest of an object after one of its members. -/
theorem foldlM_step_members {members : List (String × Json)}
    (h : ∀ m ∈ members, Takes m.2.tokens m.2) (m : String × Json)
    (taken : List (String × Json)) (stack : List Frame) (rest : List Token) :
    ((memberTokens members).flatMap (.comma :: ·) ++ .closeObject :: rest).foldlM step
        (.done m.2, .object (taken.map keyed) (some m.1) :: stack) =
      rest.foldlM step (.done (.object (taken.reverse ++ m :: members)), stack) := by
  induction members generalizing m taken with
  | nil =>
    change rest.foldlM step (.done (ofMembers ((m :: taken).map keyed)), stack) = _
    rw [← List.reverse_reverse (m :: taken), ofMembers_keyed, List.reverse_cons]
  | cons n members ih =>
    obtain ⟨hn, hmembers⟩ := List.forall_mem_cons.mp h
    rw [memberTokens, List.flatMap_cons, List.append_assoc]
    change (n.2.tokens ++ _).foldlM step
      (.value false, .object ((m :: taken).map keyed) (some n.1) :: stack) = _
    rw [hn, ih hmembers, List.reverse_cons, List.append_assoc]
    rfl

theorem takes_object {members : List (String × Json)} (h : ∀ m ∈ members, Takes m.2.tokens m.2) :
    Takes (tokens (.object members)) (.object members) := by
  intro opened stack rest
  rw [tokens, List.cons_append, List.append_assoc]
  cases members with
  | nil => rfl
  | cons m members =>
    obtain ⟨hm, hmembers⟩ := List.forall_mem_cons.mp h
    rw [memberTokens, intercalate_comma, List.append_assoc]
    change (m.2.tokens ++ _).foldlM step
      (.value false, .object ([].map keyed) (some m.1) :: stack) = _
    rw [hm, List.singleton_append, foldlM_step_members hmembers]
    rfl

/-- **The machine takes the spelling of a value.** -/
theorem takes_tokens {v : Json} (h : v.IsSpelled) : Takes v.tokens v := by
  induction h with
  | null | bool | number | string => exact fun _ _ _ => rfl
  | array _ ih => exact takes_array ih
  | object _ ih => exact takes_object ih

/-- **The spelling of a value is read as this value.** -/
theorem ofTokens?_tokens {v : Json} (h : v.IsSpelled) : ofTokens? v.tokens = some v := by
  have htakes : v.tokens.foldlM step (.value false, []) = some (.done v, []) := by
    rw [← List.append_nil v.tokens, takes_tokens h]
    rfl
  rw [ofTokens?, htakes]

end Chargeback.Json

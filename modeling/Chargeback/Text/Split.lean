/-!
# Splitting texts

A text is cut at the first occurrence of a character (`cut?`) or at all of them (`pieces`). Nothing
is lost: what was cut and the separators make up the text again (`cut?_eq_some_iff`,
`joinWith_piecesOf`).
-/

namespace Chargeback

/-- The characters before the first `c`, and those after it. -/
def cutList? (c : Char) : List Char → Option (List Char × List Char)
  | [] => none
  | d :: ds => if d = c then some ([], ds) else (cutList? c ds).map fun r => (d :: r.1, r.2)

/-- The text before the first `c`, and the text after it. -/
def cut? (c : Char) (s : String) : Option (String × String) :=
  (cutList? c s.toList).map fun r => (String.ofList r.1, String.ofList r.2)

theorem cutList?_eq_some_iff {c : Char} {cs before after : List Char} :
    cutList? c cs = some (before, after) ↔ c ∉ before ∧ cs = before ++ c :: after := by
  induction cs generalizing before with
  | nil => simp [cutList?]
  | cons d ds ih =>
    unfold cutList?
    split
    · next h =>
      subst h
      cases before with
      | nil => simp [eq_comm]
      | cons e es => simp only [Option.some.injEq, Prod.mk.injEq]; grind
    · next h =>
      simp only [Option.map_eq_some_iff, Prod.mk.injEq, Prod.exists]
      cases before with
      | nil => simp; grind
      | cons e es => grind

/-- A cut is at the first `c` of the text. -/
theorem cut?_eq_some_iff {c : Char} {s before after : String} :
    cut? c s = some (before, after) ↔
      c ∉ before.toList ∧ s.toList = before.toList ++ c :: after.toList := by
  rw [← cutList?_eq_some_iff, cut?, Option.map_eq_some_iff]
  constructor
  · rintro ⟨r, hr, h⟩
    cases h
    simpa using hr
  · intro h
    exact ⟨_, h, by simp⟩

/-- Only a text without the character cannot be cut. -/
theorem cut?_eq_none_iff {c : Char} {s : String} : cut? c s = none ↔ c ∉ s.toList := by
  have hlist (cs : List Char) : cutList? c cs = none ↔ c ∉ cs := by
    induction cs with
    | nil => simp [cutList?]
    | cons d ds ih =>
      unfold cutList?
      split
      · next h => simp [h]
      · next h => simp [ih, Ne.symm h]
  rw [cut?, Option.map_eq_none_iff, hlist]

section Pieces

variable {β : Type} [DecidableEq β]

/-- The runs between the occurrences of `c`. There is always at least one. -/
def piecesOf (c : β) : List β → List (List β)
  | [] => [[]]
  | d :: ds =>
    if d = c then [] :: piecesOf c ds
    else
      match piecesOf c ds with
      | [] => [[d]]
      | p :: ps => (d :: p) :: ps

/-- Pieces with separators between them. -/
def joinWith (c : β) : List (List β) → List β
  | [] => []
  | [p] => p
  | p :: ps => p ++ c :: joinWith c ps

theorem piecesOf_ne_nil (c : β) (cs : List β) : piecesOf c cs ≠ [] := by
  cases cs with
  | nil => simp [piecesOf]
  | cons d ds =>
    unfold piecesOf
    split
    · simp
    · split <;> simp

theorem joinWith_piecesOf (c : β) (cs : List β) : joinWith c (piecesOf c cs) = cs := by
  induction cs with
  | nil => rfl
  | cons d ds ih =>
    unfold piecesOf
    split
    · next h =>
      subst h
      cases hp : piecesOf d ds with
      | nil => exact absurd hp (piecesOf_ne_nil d ds)
      | cons p ps => simp [joinWith, ← hp, ih]
    · split
      · next hp => exact absurd hp (piecesOf_ne_nil c ds)
      · next p ps hp =>
        rw [hp] at ih
        cases ps with
        | nil => simpa [joinWith] using ih
        | cons q qs => simpa [joinWith] using ih

end Pieces

/-- The pieces of a text between the occurrences of `c`. -/
def pieces (c : Char) (s : String) : List String := (piecesOf c s.toList).map String.ofList

end Chargeback

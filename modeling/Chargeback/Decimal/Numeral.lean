/-!
# Decimal literals

Prices and billed amounts arrive as text. A literal is one optional sign followed either by the
name of an infinity or of not-a-number, in any case, or by digits with an optional point and an
optional exponent; at least one digit stands beside the point. `Numeral.read` reads the whole text
or says why it cannot, and keeps the digits exact: how a literal is rounded is the business of the
arithmetic it is read into.
-/

namespace Chargeback

/-- What a decimal literal names. -/
inductive Numeral where
  /-- The number `± digits · 10 ^ exponent`. -/
  | scaled (negative : Bool) (digits : Nat) (exponent : Int)
  | infinite (negative : Bool)
  | notANumber
  deriving DecidableEq, Repr

namespace Numeral

/-- Why a text is no decimal literal. -/
inductive Defect where
  | empty
  | malformed
  deriving DecidableEq, Repr

/-- The wording of a defect. -/
def Defect.message : Defect → String
  | .empty => "cannot parse float from empty string"
  | .malformed => "invalid float literal"

/-- The number that a row of digits spells. -/
def ofDigits (digits : List Char) : Nat :=
  digits.foldl (fun n c => 10 * n + (c.toNat - '0'.toNat)) 0

/-- The number that a row of at least one digit and nothing else spells. -/
def row? (ds : List Char) : Option Nat :=
  if ds.isEmpty || !ds.all Char.isDigit then none else some (ofDigits ds)

/-- A row of digits with a sign in front or none. -/
def signedRow? : List Char → Option Int
  | '-' :: ds => (row? ds).map fun n => -(n : Int)
  | '+' :: ds => (row? ds).map Int.ofNat
  | ds => (row? ds).map Int.ofNat

/-- The exponent part: nothing at all, or `e` with a signed row of at least one digit. -/
def exponent? : List Char → Option Int
  | [] => some 0
  | c :: cs => if c = 'e' ∨ c = 'E' then signedRow? cs else none

/-- The digits before the point, those after it, and the text that follows both. -/
def mantissa (cs : List Char) : List Char × List Char × List Char :=
  match cs.dropWhile Char.isDigit with
  | '.' :: rest => (cs.takeWhile Char.isDigit, rest.takeWhile Char.isDigit, rest.dropWhile Char.isDigit)
  | rest => (cs.takeWhile Char.isDigit, [], rest)

/-- A literal without its sign. -/
def unsigned? (negative : Bool) (cs : List Char) : Option Numeral :=
  let word := String.ofList (cs.map Char.toLower)
  if word = "inf" ∨ word = "infinity" then some (.infinite negative)
  else if word = "nan" then some .notANumber
  else
    let (whole, fraction, rest) := mantissa cs
    if whole.isEmpty && fraction.isEmpty then none
    else (exponent? rest).map fun e =>
      .scaled negative (ofDigits (whole ++ fraction)) (e - fraction.length)

/-- Reads a literal that takes up the whole text. -/
def read (s : String) : Except Defect Numeral :=
  match s.toList with
  | [] => .error .empty
  | '-' :: cs => (unsigned? true cs).elim (.error .malformed) .ok
  | '+' :: cs => (unsigned? false cs).elim (.error .malformed) .ok
  | cs => (unsigned? false cs).elim (.error .malformed) .ok

@[simp] theorem read_empty : read "" = .error .empty := rfl

/-- The empty text is the only one with its own defect. -/
theorem read_eq_error_empty_iff {s : String} : read s = .error .empty ↔ s = "" := by
  constructor
  · intro h
    unfold read at h
    split at h
    · next hs => exact String.toList_eq_nil_iff.mp hs
    all_goals
      generalize unsigned? _ _ = o at h
      cases o <;> simp at h
  · rintro rfl
    rfl

end Numeral

end Chargeback

import Chargeback.Decimal.Numeral

/-!
# Dates and times in TOML

A date, a time of day, or both, then also with a distance from universal time. They are written back
in one form: with a `T` between date and time, at most nine decimal places of a second and no zeros
at their end, and the distance as `Z` or in hours and minutes.
-/

namespace Chargeback.Toml

/-- Whether a year has a day more in February. -/
def isLeap (year : Nat) : Bool := year % 4 = 0 && (year % 100 ≠ 0 || year % 400 = 0)

/-- The days of a month. -/
def daysIn (year month : Nat) : Nat :=
  if month = 2 then if isLeap year then 29 else 28
  else if month = 4 ∨ month = 6 ∨ month = 9 ∨ month = 11 then 30
  else 31

/-- A number of so many digits from a range, and what follows it. -/
def field? (digits low high : Nat) (cs : List Char) : Option (Nat × List Char) :=
  let n := Numeral.ofDigits (cs.take digits)
  if (cs.take digits).length = digits ∧ (cs.take digits).all Char.isDigit ∧ low ≤ n ∧ n ≤ high then
    some (n, cs.drop digits)
  else none

/-- What follows a character. -/
def after? (c : Char) : List Char → Option (List Char)
  | d :: rest => if d = c then some rest else none
  | [] => none

/-- A date, and what follows it. -/
def date? (cs : List Char) : Option (List Char × List Char) := do
  let (year, rest) ← field? 4 0 9999 cs
  let (month, rest) ← field? 2 1 12 (← after? '-' rest)
  let (_, rest) ← field? 2 1 (daysIn year month) (← after? '-' rest)
  return (cs.take 10, rest)

/-- The decimal places of a second, and what follows them. -/
def places (cs : List Char) : List Char × List Char :=
  match cs with
  | '.' :: rest =>
    let digits := rest.takeWhile Char.isDigit
    let kept := ((digits.take 9).reverse.dropWhile (· == '0')).reverse
    if digits.isEmpty then ([], cs)
    else (if kept.isEmpty then [] else '.' :: kept, rest.dropWhile Char.isDigit)
  | _ => ([], cs)

/-- A time of day, and what follows it. A minute may have a second more. -/
def time? (cs : List Char) : Option (List Char × List Char) := do
  let (_, rest) ← field? 2 0 23 cs
  let (_, rest) ← field? 2 0 59 (← after? ':' rest)
  let (_, rest) ← field? 2 0 60 (← after? ':' rest)
  return (cs.take 8 ++ (places rest).1, (places rest).2)

/-- A distance from universal time in hours and minutes, and what follows it. -/
def distance? (cs : List Char) : Option (List Char × List Char) := do
  let (_, rest) ← field? 2 0 23 cs
  let (_, rest) ← field? 2 0 59 (← after? ':' rest)
  return (cs.take 5, rest)

/-- A distance from universal time, and what follows it. No distance is none to the east. -/
def offset? : List Char → Option (List Char × List Char)
  | c :: rest =>
    if c = 'Z' ∨ c = 'z' then some (['Z'], rest)
    else if c = '+' ∨ c = '-' then
      (distance? rest).map fun r =>
        ((if r.1 = ['0', '0', ':', '0', '0'] then '+' else c) :: r.1, r.2)
    else none
  | [] => none

/-- A time of day behind a date, with its distance from universal time, and what follows them. -/
def timeOfDate? : List Char → Option (List Char × List Char)
  | c :: rest =>
    if c = 'T' ∨ c = 't' ∨ c = ' ' then
      (time? rest).map fun t =>
        match offset? t.2 with
        | some o => ('T' :: t.1 ++ o.1, o.2)
        | none => ('T' :: t.1, t.2)
    else none
  | [] => none

/-- A date, a time or both, in the form in which they are written back, and what follows them. -/
def moment? (cs : List Char) : Option (String × List Char) :=
  match date? cs with
  | some (date, rest) =>
    match timeOfDate? rest with
    | some (time, rest) => some (String.ofList (date ++ time), rest)
    | none => some (String.ofList date, rest)
  | none => (time? cs).map fun t => (String.ofList t.1, t.2)

end Chargeback.Toml

/-!
# Moments

A moment is printed by its date and time of day, in the Gregorian calendar and universal time. Years
are taken to begin in March, so that the day that some of them have more is their last one.
-/

namespace Chargeback.Display

/-- The date of a day, counted from the first of January 1970: year, month and day. -/
def date (day : Nat) : Nat × Nat × Nat :=
  -- the days are counted from the first of March of year zero, four hundred years at a time
  let shifted := day + 719468
  let inEra := shifted % 146097
  let yearInEra := (inEra - inEra / 1460 + inEra / 36524 - inEra / 146096) / 365
  let inYear := inEra - (365 * yearInEra + yearInEra / 4 - yearInEra / 100)
  let month := (5 * inYear + 2) / 153
  let year := yearInEra + shifted / 146097 * 400
  (if month < 10 then year else year + 1, if month < 10 then month + 3 else month - 9,
    inYear - (153 * month + 2) / 5 + 1)

/-- A number with zeros in front up to a width. -/
def zeroPadded (width n : Nat) : String :=
  let digits := Nat.toDigits 10 n
  String.ofList (List.replicate (width - digits.length) '0' ++ digits)

/-- The moment so many seconds after the beginning of 1970. -/
def moment (seconds : Nat) : String :=
  let (year, month, day) := date (seconds / 86400)
  let time := seconds % 86400
  "-".intercalate [zeroPadded 4 year, zeroPadded 2 month, zeroPadded 2 day] ++ " " ++
    ":".intercalate
      [zeroPadded 2 (time / 3600), zeroPadded 2 (time / 60 % 60), zeroPadded 2 (time % 60)] ++
    " UTC"

end Chargeback.Display

import Criteria.Calendar.Moment
/-!
# Dates and moments as text

A date is written year, month, day with dashes. The year has four digits,
and a sign where it lies outside `0 … 9999`. A time shows three, six or
nine digits of its second, as few as it needs, and none for a whole
second; a leap second shows as second 60.
-/

namespace Criteria

namespace Calendar

/-- A natural number with leading zeros up to a width. -/
def padded (width n : Nat) : String :=
  let digits := toString n
  String.ofList (List.replicate (width - digits.length) '0') ++ digits

/-- A year with at least four digits, signed outside `0 … 9999`. -/
def yearText (year : Int) : String :=
  let digits := padded 4 year.natAbs
  if year < 0 then "-" ++ digits else if 9999 < year then "+" ++ digits else digits

end Calendar

open Calendar

/-- Year, month and day. -/
def Date.text (d : Date) : String :=
  yearText d.year ++ "-" ++ padded 2 d.month ++ "-" ++ padded 2 d.day

/-- The digits of a fraction of a second, as few groups of three as it
needs. -/
def TimeOfDay.fractionText (nanosecond : Nat) : String :=
  if nanosecond = 0 then ""
  else if nanosecond % 1000000 = 0 then "." ++ padded 3 (nanosecond / 1000000)
  else if nanosecond % 1000 = 0 then "." ++ padded 6 (nanosecond / 1000)
  else "." ++ padded 9 nanosecond

/-- Hours, minutes, seconds and the fraction. -/
def TimeOfDay.text (t : TimeOfDay) : String :=
  let leap := 1000000000 ≤ t.nanosecond
  padded 2 (t.second / 3600) ++ ":" ++ padded 2 (t.second / 60 % 60) ++ ":"
    ++ padded 2 (if leap then t.second % 60 + 1 else t.second % 60)
    ++ fractionText (if leap then t.nanosecond - 1000000000 else t.nanosecond)

namespace Moment

/-- The moment as messages show it, with a space between date and time. -/
def text (m : Moment) : String := m.date.text ++ " " ++ m.time.text

/-- The moment inspected, with a `T` between date and time. -/
def inspect (m : Moment) : String := m.date.text ++ "T" ++ m.time.text

end Moment

end Criteria

/-!
# Calendar dates

Dates of the Gregorian calendar, run backward past its beginning and with a
year zero, from year `-262143` to year `262142`. A `Date` is a day that the
calendar has, and dates order by year, month and day. `Date.dayNumber` counts days from the first day of year one, and
`Date.ofDayNumber?` finds the date of a count, if the calendar has it;
moving a date by days goes through the count.
-/

namespace Criteria

namespace Calendar

/-- The calendar's first and last year. -/
def firstYear : Int := -262143

def lastYear : Int := 262142

/-- A year with a 29 February: every fourth, but of the whole centuries
only every fourth. -/
def isLeapYear (year : Int) : Bool :=
  year % 4 == 0 && (year % 100 != 0 || year % 400 == 0)

/-- The lengths of a year's months. -/
def monthLengths (year : Int) : List Nat :=
  [31, if isLeapYear year then 29 else 28, 31, 30, 31, 30, 31, 31, 30, 31, 30, 31]

/-- The number of days in a month of a year; none in a month that is not
there. -/
def daysInMonth (year : Int) (month : Nat) : Nat :=
  if month = 0 then 0 else (monthLengths year).getD (month - 1) 0

/-- The days in a year before one of its months. -/
def daysBeforeMonth (year : Int) (month : Nat) : Nat :=
  ((monthLengths year).take (month - 1)).foldl (· + ·) 0

/-- The days from the first day of year one to the first day of a year. -/
def daysBeforeYear (year : Int) : Int :=
  let y := year - 1
  365 * y + y / 4 - y / 100 + y / 400

/-- The year of a day number: a first guess from the mean length of a year
is off by one at most. -/
def yearOf (day : Int) : Int :=
  let guess := 400 * day / 146097 + 1
  if day < daysBeforeYear guess then guess - 1
  else if daysBeforeYear (guess + 1) ≤ day then guess + 1
  else guess

/-- Finds a day of the year among months of the given lengths: the month's
index from `month` on, and the day's index in it. -/
def splitDay (lengths : List Nat) (month day : Nat) : Nat × Nat :=
  match lengths with
  | [] => (month, day)
  | length :: rest => if day < length then (month, day) else splitDay rest (month + 1) (day - length)

end Calendar

open Calendar

namespace Calendar

/-- The calendar has a day of this year, month and day of the month. -/
def hasDay (year : Int) (month day : Nat) : Bool :=
  firstYear ≤ year && year ≤ lastYear && 1 ≤ month && month ≤ 12 &&
    1 ≤ day && day ≤ daysInMonth year month

end Calendar

/-- A date of the calendar. -/
structure Date where
  year : Int
  month : Nat
  day : Nat
  isValid : hasDay year month day = true
deriving DecidableEq, Repr

namespace Date

/-- The date of a year, month and day, if the calendar has it. -/
def ofYearMonthDay? (year : Int) (month day : Nat) : Option Date :=
  if h : hasDay year month day = true then some ⟨year, month, day, h⟩ else none

/-- Days since the first day of year one. -/
def dayNumber (d : Date) : Int :=
  daysBeforeYear d.year + (daysBeforeMonth d.year d.month : Int) + (d.day : Int) - 1

/-- The date a number of days after the first day of year one, if the
calendar has it. -/
def ofDayNumber? (day : Int) : Option Date :=
  let year := yearOf day
  let (month, dayOfMonth) := splitDay (monthLengths year) 1 (day - daysBeforeYear year).toNat
  ofYearMonthDay? year month (dayOfMonth + 1)

/-- The date some days later, or earlier for a negative count, if the
calendar has it. -/
def addDays? (d : Date) (days : Int) : Option Date := ofDayNumber? (d.dayNumber + days)

/-- Order by year, then month, then day. -/
protected def compare (a b : Date) : Ordering :=
  (compare a.year b.year).then ((compare a.month b.month).then (compare a.day b.day))

instance : Ord Date := ⟨Date.compare⟩

/-- The day of the week, with Monday as `0`; the first day of year one is a
Monday. -/
def weekday (d : Date) : Nat := (d.dayNumber % 7).toNat

/-- A Saturday or a Sunday. -/
def isWeekend (d : Date) : Bool := 5 ≤ d.weekday

end Date

end Criteria

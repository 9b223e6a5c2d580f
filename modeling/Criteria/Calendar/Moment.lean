import Criteria.Calendar.Date
/-!
# Moments

A moment is a date and a time of day. A time counts the seconds since
midnight and the nanoseconds in the last of them; the nanoseconds may pass
`10 ^ 9`, which is how a leap second is held. A time that is given by its
hour, minute and second has one in second 59 alone, but a time may get
other nanoseconds afterwards, and then any second may be a leap second.
Moments order by date, then time, so a leap second follows its second and
precedes the next.
-/

namespace Criteria

/-- The clock has this second of the day with this nanosecond, which is
below two whole seconds. -/
def Calendar.hasTime (second nanosecond : Nat) : Bool :=
  second < 86400 && nanosecond < 2000000000

/-- A time of day: the second since midnight, and the nanosecond in it. -/
structure TimeOfDay where
  second : Nat
  nanosecond : Nat
  isValid : Calendar.hasTime second nanosecond = true
deriving DecidableEq, Repr

namespace TimeOfDay

/-- The time of a second of the day, if the clock has it. -/
def ofSecond? (second nanosecond : Nat) : Option TimeOfDay :=
  if h : Calendar.hasTime second nanosecond = true then some ⟨second, nanosecond, h⟩ else none

/-- The time of an hour, minute and second, if the clock has it. Given so,
it has a leap second in second 59 only. -/
def ofParts? (hour minute second nanosecond : Nat) : Option TimeOfDay :=
  if hour < 24 && minute < 60 && second < 60 && (nanosecond < 1000000000 || second == 59) then
    ofSecond? (hour * 3600 + minute * 60 + second) nanosecond
  else none

/-- Order by second, then nanosecond. -/
protected def compare (a b : TimeOfDay) : Ordering :=
  (compare a.second b.second).then (compare a.nanosecond b.nanosecond)

instance : Ord TimeOfDay := ⟨TimeOfDay.compare⟩

/-- The start of the day. -/
def midnight : TimeOfDay := ⟨0, 0, by decide⟩

end TimeOfDay

/-- A date and a time of day. -/
structure Moment where
  date : Date
  time : TimeOfDay
deriving DecidableEq, Repr

namespace Moment

/-- Order by date, then time. -/
protected def compare (a b : Moment) : Ordering :=
  (compare a.date b.date).then (compare a.time b.time)

instance : Ord Moment := ⟨Moment.compare⟩

/-- Midnight of 1 January 1970. -/
def epoch : Moment := ⟨⟨1970, 1, 1, by decide⟩, .midnight⟩

/-- The moment some seconds later, or earlier for a negative count, if the
calendar has it. The way out of a leap second begins at its second when it
leads forward, and at the next one when it leads back. -/
def addSeconds? (m : Moment) (seconds : Int) : Option Moment := do
  let leaves := 1000000000 ≤ m.time.nanosecond && seconds != 0
  let first : Int := if leaves && seconds < 0 then m.time.second + 1 else m.time.second
  let date ← m.date.addDays? ((first + seconds) / 86400)
  let time ← TimeOfDay.ofSecond? ((first + seconds) % 86400).toNat
    (if leaves then m.time.nanosecond - 1000000000 else m.time.nanosecond)
  return ⟨date, time⟩

end Moment

end Criteria

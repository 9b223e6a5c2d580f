import Criteria.Condition
import Criteria.Guard
/-!
# Tests of moments

Some tests are relative: they ask the clock of the filter's configuration
each time they run, not when they are made. A window of days whose far end
lies beyond the calendar is open at that end.
-/

namespace Criteria

/-- A test of a moment. -/
inductive MomentTest
  | future
  | past
  /-- On a date between two, both included. -/
  | between (first last : Date)
  | on (date : Date)
  | before (moment : Moment)
  | after (moment : Moment)
  | today
  | yesterday
  | tomorrow
  /-- No earlier than some days before today. -/
  | lastDays (days : Int)
  /-- No later than some days after today. -/
  | nextDays (days : Int)
  | weekend
  | weekday
  | leapYear
  | sameMonth (date : Date)
  | sameYear (date : Date)
deriving DecidableEq, Repr

namespace MomentTest

/-- What a test checks, under clock readings, with a clock to ask. The
bounds of a range must order, and a window must have a day. -/
def check (clock : Clock) : MomentTest → Except Error (Clock.Readings → Moment → Bool)
  | future => .ok fun r m => compare m (clock.now r) == .gt
  | past => .ok fun r m => compare m (clock.now r) == .lt
  | between first last => (Guard.ensureOrdered first last).map fun _ =>
      fun _ m => compare m.date first != .lt && compare m.date last != .gt
  | on date => .ok fun _ m => m.date == date
  | before moment => .ok fun _ m => compare m moment == .lt
  | after moment => .ok fun _ m => compare m moment == .gt
  | today => .ok fun r m => m.date == clock.today r
  | yesterday => .ok fun r m => (clock.today r).addDays? (-1) == some m.date
  | tomorrow => .ok fun r m => (clock.today r).addDays? 1 == some m.date
  | lastDays days => (Guard.ensurePositive "days" days).map fun _ =>
      fun r m => ((clock.today r).addDays? (-days)).all (compare m.date · != .lt)
  | nextDays days => (Guard.ensurePositive "days" days).map fun _ =>
      fun r m => ((clock.today r).addDays? days).all (compare m.date · != .gt)
  | weekend => .ok fun _ m => m.date.isWeekend
  | weekday => .ok fun _ m => !m.date.isWeekend
  | leapYear => .ok fun _ m => Calendar.isLeapYear m.date.year
  | sameMonth date => .ok fun _ m => m.date.year == date.year && m.date.month == date.month
  | sameYear date => .ok fun _ m => m.date.year == date.year

/-- The test as a condition of moments. -/
def condition (clock : Clock) (t : MomentTest) : Except Error (Condition Moment) :=
  (t.check clock).map Condition.ofTimedTest

end MomentTest

end Criteria

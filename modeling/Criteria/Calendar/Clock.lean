import Criteria.Calendar.Moment
/-!
# Clocks

A condition on dates may ask a clock for the present. What the clocks show
is an input of evaluation: `Clock.Readings` holds what each shows, and the
same condition answers differently under later readings.
-/

namespace Criteria

/-- A source of the present. -/
inductive Clock
  /-- The wall clock. -/
  | wall
  /-- Coordinated universal time. -/
  | utc
deriving DecidableEq, Repr

namespace Clock

/-- What the clocks show at one instant. -/
structure Readings where
  wall : Moment
  utc : Moment
deriving DecidableEq, Repr

/-- The moment a clock shows. -/
def now : Clock → Readings → Moment
  | wall, r => r.wall
  | utc, r => r.utc

/-- The date a clock shows. -/
def today (c : Clock) (r : Readings) : Date := (c.now r).date

end Clock

end Criteria

import Criteria.Calendar.Moment
import Criteria.Proofs.Calendar.DayNumber
/-!
# Dates — months and years as stretches of days

The dates of a month are those from its first day to its last, and so are the
dates of a year, since dates order by year before month and by month before
day. A moment comes before the midnight that begins a date exactly where its own
date comes before that date, as no time of day comes before midnight.
-/

namespace Criteria

open Calendar

namespace Date

variable {a b d e : Date}

/-! ## First and last days -/

theorem month_le (d : Date) : 1 ≤ d.month ∧ d.month ≤ 12 := by
  obtain ⟨-, hmonth, -, hlt⟩ := hasDay_iff.mp d.isValid
  have htwelve := lt_twelve_of_lt_getD hlt
  omega

/-- The last day of a month is its length. -/
theorem daysInMonth_eq (d : Date) :
    daysInMonth d.year d.month = (monthLengths d.year).getD (d.month - 1) 0 := by
  have hmonth := d.month_le
  rw [daysInMonth, if_neg (by omega)]

theorem day_le (d : Date) : 1 ≤ d.day ∧ d.day ≤ daysInMonth d.year d.month := by
  obtain ⟨-, -, hday, hlt⟩ := hasDay_iff.mp d.isValid
  rw [daysInMonth_eq]
  omega

/-- The first day of a date's month. -/
def monthStart (d : Date) : Date where
  year := d.year
  month := d.month
  day := 1
  isValid := by
    have hday := d.day_lt
    exact hasDay_iff.mpr ⟨d.year_mem, d.month_le.1, le_rfl, by omega⟩

/-- The last day of a date's month. -/
def monthEnd (d : Date) : Date where
  year := d.year
  month := d.month
  day := daysInMonth d.year d.month
  isValid := by
    have hday := d.day_lt
    rw [hasDay_iff, daysInMonth_eq]
    exact ⟨d.year_mem, d.month_le.1, by omega, by omega⟩

/-- The first of January of a date's year. -/
def yearStart (d : Date) : Date where
  year := d.year
  month := 1
  day := 1
  isValid := hasDay_iff.mpr ⟨d.year_mem, le_rfl, le_rfl, (by decide : 0 < 31)⟩

/-- The last of December of a date's year. -/
def yearEnd (d : Date) : Date where
  year := d.year
  month := 12
  day := 31
  isValid := hasDay_iff.mpr ⟨d.year_mem, by decide, by decide, (by decide : 30 < 31)⟩

/-! ## Stretches -/

/-- A date is no later than another. -/
theorem dayNumber_le_iff : a.dayNumber ≤ b.dayNumber ↔
    a.year < b.year ∨ a.year = b.year ∧
      (a.month < b.month ∨ a.month = b.month ∧ a.day ≤ b.day) := by
  rw [← Int.compare_ne_gt, ← compare_eq, compare_def, Ne, Ordering.then_eq_gt, Ordering.then_eq_gt,
    Int.compare_eq_gt, Nat.compare_eq_gt, Nat.compare_eq_gt, Int.compare_eq_eq, Nat.compare_eq_eq]
  omega

/-- **A month is the stretch from its first day to its last.** -/
theorem sameMonth_iff : (d.year = e.year ∧ d.month = e.month) ↔
    e.monthStart.dayNumber ≤ d.dayNumber ∧ d.dayNumber ≤ e.monthEnd.dayNumber := by
  have hday := d.day_le
  rw [dayNumber_le_iff, dayNumber_le_iff]
  simp only [monthStart, monthEnd]
  constructor
  · rintro ⟨hyear, hmonth⟩
    rw [← hyear, ← hmonth]
    omega
  · omega

/-- **And a year.** -/
theorem sameYear_iff : d.year = e.year ↔
    e.yearStart.dayNumber ≤ d.dayNumber ∧ d.dayNumber ≤ e.yearEnd.dayNumber := by
  have hmonth := d.month_le
  have hday := d.day_le
  have hdecember : d.month = 12 → daysInMonth d.year d.month = 31 := by
    intro h
    rw [h]
    rfl
  rw [dayNumber_le_iff, dayNumber_le_iff]
  simp only [yearStart, yearEnd]
  omega

/-- The days between two dates are those not before the first and before the day
after the last, where the calendar has that day. -/
theorem between_iff (first last d : Date) :
    (first.dayNumber ≤ d.dayNumber ∧ d.dayNumber ≤ last.dayNumber) ↔
      ¬ d.dayNumber < first.dayNumber ∧
        ∀ next, last.addDays? 1 = some next → d.dayNumber < next.dayNumber := by
  rw [not_lt]
  refine and_congr_right fun _ => ⟨fun hle next hnext => ?_, fun h => ?_⟩
  · rw [addDays?_eq_some_iff.mp hnext]
    omega
  · cases hnext : last.addDays? 1 with
    | some next =>
      have hlt := h next hnext
      rw [addDays?_eq_some_iff.mp hnext] at hlt
      omega
    | none =>
      -- then no date follows the last
      rcases addDays?_eq_none_iff.mp hnext with hbefore | hafter
      · have hlast := hbefore last
        omega
      · have hd := hafter d
        omega

end Date

/-- **A moment comes before a midnight where its date does.** -/
theorem Moment.compare_midnight_iff {m : Moment} {d : Date} :
    compare m ⟨d, .midnight⟩ = .lt ↔ m.date.dayNumber < d.dayNumber := by
  have hdef : compare m ⟨d, .midnight⟩ = (compare m.date d).then
      ((compare m.time.second 0).then (compare m.time.nanosecond 0)) := rfl
  rw [hdef, Ordering.then_eq_lt, Ordering.then_eq_lt, Nat.compare_eq_lt, Nat.compare_eq_lt,
    Date.compare_eq, Int.compare_eq_lt]
  omega

end Criteria

import Criteria.Calendar.Date
import Mathlib
/-!
# Dates — counted by days

A date and its day number are two names of one day. The days before a year
grow with the year, by the year's length, so a day number lies in one year,
and the guess that `yearOf` starts from is off by one at most; in the year it
lies in one month, and in the month it is one day. So `ofDayNumber?` finds
the date of a number and of no other, dates order as their numbers do, and
every number between those of two dates is a date's.
-/

namespace Criteria

namespace Calendar

/-! ## Years -/

/-- The number of days in a year. -/
def yearLength (year : Int) : Nat := if isLeapYear year then 366 else 365

theorem isLeapYear_iff {year : Int} :
    isLeapYear year = true ↔ year % 4 = 0 ∧ (year % 100 ≠ 0 ∨ year % 400 = 0) := by
  simp [isLeapYear]

theorem daysBeforeYear_eq (year : Int) : daysBeforeYear year =
    365 * (year - 1) + (year - 1) / 4 - (year - 1) / 100 + (year - 1) / 400 := rfl

/-- The days before a year and the year's own are those before the next. -/
theorem daysBeforeYear_succ (year : Int) :
    daysBeforeYear (year + 1) = daysBeforeYear year + yearLength year := by
  rw [daysBeforeYear_eq, daysBeforeYear_eq, yearLength]
  by_cases hleap : isLeapYear year = true
  · rw [if_pos hleap]
    have hdivides := isLeapYear_iff.mp hleap
    omega
  · rw [if_neg hleap]
    have hdivides := mt isLeapYear_iff.mpr hleap
    omega

theorem daysBeforeYear_strictMono : StrictMono daysBeforeYear := by
  refine strictMono_int_of_lt_succ fun year => ?_
  have hlength : 0 < yearLength year := by
    unfold yearLength
    split <;> decide
  rw [daysBeforeYear_succ]
  omega

/-- **A day lies in the year that is found for it.** -/
theorem daysBeforeYear_yearOf (n : Int) :
    daysBeforeYear (yearOf n) ≤ n ∧ n < daysBeforeYear (yearOf n + 1) := by
  obtain ⟨g, hg⟩ : ∃ g, g = 400 * n / 146097 + 1 := ⟨_, rfl⟩
  -- the mean length of a year puts the day within a year of the guess
  have hlow : daysBeforeYear (g - 1) ≤ n := by
    rw [daysBeforeYear_eq]
    omega
  have hhigh : n < daysBeforeYear (g + 1 + 1) := by
    rw [daysBeforeYear_eq]
    omega
  rw [yearOf, ← hg]
  split
  · exact ⟨hlow, by rwa [Int.sub_add_cancel]⟩
  split
  · exact ⟨‹_›, hhigh⟩
  · omega

/-- A year that has begun by a day is no later than one that has not ended. -/
theorem year_le_of_daysBeforeYear {n y z : Int} (hy : daysBeforeYear y ≤ n)
    (hz : n < daysBeforeYear (z + 1)) : y ≤ z :=
  Int.lt_add_one_iff.mp (daysBeforeYear_strictMono.lt_iff_lt.mp (hy.trans_lt hz))

/-- So the day lies in no other year. -/
theorem yearOf_eq {n year : Int} (hle : daysBeforeYear year ≤ n)
    (hlt : n < daysBeforeYear (year + 1)) : yearOf n = year := by
  obtain ⟨hle', hlt'⟩ := daysBeforeYear_yearOf n
  exact le_antisymm (year_le_of_daysBeforeYear hle' hlt) (year_le_of_daysBeforeYear hle hlt')

/-! ## Days of a year

Of a row of lengths a day in it lies in one, and `splitDay` finds which. -/

section Split

variable {lengths : List Nat} {i j month day : Nat}

/-- A length and all before it are no more than all before a later one. -/
theorem sum_take_add_getD_le (lengths : List Nat) (h : i < j) :
    (lengths.take i).sum + lengths.getD i 0 ≤ (lengths.take j).sum := by
  induction lengths generalizing i j with
  | nil => simp
  | cons length rest ih =>
    obtain ⟨j, rfl⟩ : ∃ k, j = k + 1 := ⟨j - 1, by omega⟩
    cases i with
    | zero => simp
    | succ i =>
      have hrest := ih (by omega : i < j)
      simp only [List.take_succ_cons, List.sum_cons, List.getD_cons_succ]
      omega

/-- A day counted from the start of a length is found there. -/
theorem splitDay_eq (h : day < lengths.getD i 0) :
    splitDay lengths month ((lengths.take i).sum + day) = (month + i, day) := by
  induction lengths generalizing i month with
  | nil => simp at h
  | cons length rest ih =>
    cases i with
    | zero =>
      have hday : day < length := h
      simp [splitDay, hday]
    | succ i =>
      have hday : day < rest.getD i 0 := h
      rw [List.take_succ_cons, List.sum_cons, splitDay, if_neg (by omega),
        show length + (rest.take i).sum + day - length = (rest.take i).sum + day by omega, ih hday]
      exact Prod.ext (by omega) rfl

/-- Every day of the row is counted from the start of one. -/
theorem exists_eq_sum_take_add (h : day < lengths.sum) :
    ∃ i d, d < lengths.getD i 0 ∧ day = (lengths.take i).sum + d := by
  induction lengths generalizing day with
  | nil => simp at h
  | cons length rest ih =>
    by_cases hday : day < length
    · exact ⟨0, day, hday, by simp⟩
    · rw [List.sum_cons] at h
      obtain ⟨i, d, hd, hsum⟩ := ih (by omega : day - length < rest.sum)
      exact ⟨i + 1, d, hd, by rw [List.take_succ_cons, List.sum_cons]; omega⟩

end Split

/-- The months make up the year. -/
theorem sum_monthLengths (year : Int) : (monthLengths year).sum = yearLength year := by
  unfold monthLengths yearLength
  split <;> rfl

/-- A month with a day in it is one of the year's. -/
theorem lt_twelve_of_lt_getD {year : Int} {i day : Nat} (h : day < (monthLengths year).getD i 0) :
    i < 12 := by
  by_contra hi
  rw [List.getD_eq_default _ _ (Nat.le_of_not_lt hi)] at h
  exact Nat.not_lt_zero day h

/-- The days that the calendar has: the days of its years' months. -/
theorem hasDay_iff {year : Int} {month day : Nat} :
    hasDay year month day = true ↔ (firstYear ≤ year ∧ year ≤ lastYear) ∧ 1 ≤ month ∧ 1 ≤ day ∧
      day - 1 < (monthLengths year).getD (month - 1) 0 := by
  simp only [hasDay, Bool.and_eq_true, decide_eq_true_eq]
  constructor
  · rintro ⟨⟨⟨⟨hyear, hmonth⟩, -⟩, hday⟩, hle⟩
    rw [daysInMonth, if_neg (by omega)] at hle
    exact ⟨hyear, hmonth, hday, by omega⟩
  · rintro ⟨hyear, hmonth, hday, hlt⟩
    have htwelve := lt_twelve_of_lt_getD hlt
    refine ⟨⟨⟨⟨hyear, hmonth⟩, by omega⟩, hday⟩, ?_⟩
    rw [daysInMonth, if_neg (by omega)]
    omega

end Calendar

open Calendar

namespace Date

variable {d : Date} {n : Int}

/-- The days of its year before a date. -/
def dayOfYear (d : Date) : Nat := ((monthLengths d.year).take (d.month - 1)).sum + (d.day - 1)

theorem year_mem (d : Date) : firstYear ≤ d.year ∧ d.year ≤ lastYear := (hasDay_iff.mp d.isValid).1

theorem day_lt (d : Date) : d.day - 1 < (monthLengths d.year).getD (d.month - 1) 0 :=
  (hasDay_iff.mp d.isValid).2.2.2

theorem dayNumber_eq (d : Date) : d.dayNumber = daysBeforeYear d.year + d.dayOfYear := by
  have hday : 1 ≤ d.day := (hasDay_iff.mp d.isValid).2.2.1
  have hmonth : daysBeforeMonth d.year d.month = ((monthLengths d.year).take (d.month - 1)).sum :=
    List.sum_eq_foldl_nat.symm
  rw [dayNumber, dayOfYear, hmonth]
  omega

theorem dayOfYear_lt (d : Date) : d.dayOfYear < yearLength d.year := by
  have hday := d.day_lt
  have hmonth : d.month - 1 < (monthLengths d.year).length := lt_twelve_of_lt_getD hday
  have hle : ((monthLengths d.year).take (d.month - 1)).sum +
      (monthLengths d.year).getD (d.month - 1) 0 ≤ yearLength d.year := by
    simpa [sum_monthLengths] using sum_take_add_getD_le (monthLengths d.year) hmonth
  rw [dayOfYear]
  omega

/-- A date's number lies in its year. -/
theorem dayNumber_mem (d : Date) :
    daysBeforeYear d.year ≤ d.dayNumber ∧ d.dayNumber < daysBeforeYear (d.year + 1) := by
  have hday := d.dayOfYear_lt
  rw [dayNumber_eq, daysBeforeYear_succ]
  omega

/-- And in the calendar's years. -/
theorem dayNumber_mem_calendar (d : Date) :
    daysBeforeYear firstYear ≤ d.dayNumber ∧ d.dayNumber < daysBeforeYear (lastYear + 1) := by
  obtain ⟨hfirst, hlast⟩ := d.year_mem
  obtain ⟨hle, hlt⟩ := d.dayNumber_mem
  have hbefore := daysBeforeYear_strictMono.monotone hfirst
  have hafter := daysBeforeYear_strictMono.monotone (Int.add_le_add_right hlast 1)
  omega

/-! ## Dates of numbers -/

/-- **What is found for a day number**: the day that it counts, if the calendar
has its year. -/
theorem ofDayNumber?_cases (n : Int) :
    ∃ month day, 1 ≤ month ∧ 1 ≤ day ∧
      day - 1 < (monthLengths (yearOf n)).getD (month - 1) 0 ∧
      n = daysBeforeYear (yearOf n) +
        (((monthLengths (yearOf n)).take (month - 1)).sum + (day - 1) : Nat) ∧
      ofDayNumber? n = ofYearMonthDay? (yearOf n) month day := by
  obtain ⟨hle, hlt⟩ := daysBeforeYear_yearOf n
  rw [daysBeforeYear_succ] at hlt
  obtain ⟨day, hday⟩ : ∃ day : Nat, n = daysBeforeYear (yearOf n) + day :=
    ⟨(n - daysBeforeYear (yearOf n)).toNat, by omega⟩
  have hsum : day < (monthLengths (yearOf n)).sum := by rw [sum_monthLengths]; omega
  obtain ⟨i, k, hk, rfl⟩ := exists_eq_sum_take_add hsum
  have htoNat : (n - daysBeforeYear (yearOf n)).toNat =
      ((monthLengths (yearOf n)).take i).sum + k := by omega
  refine ⟨1 + i, k + 1, by omega, by omega, ?_, ?_, ?_⟩
  · simpa using hk
  · simpa using hday
  · rw [ofDayNumber?, htoNat, splitDay_eq hk]

/-- **`ofDayNumber?` finds the date of a number, and no other.** -/
theorem ofDayNumber?_eq_some_iff : ofDayNumber? n = some d ↔ d.dayNumber = n := by
  constructor
  · intro h
    obtain ⟨month, day, -, -, -, hn, heq⟩ := ofDayNumber?_cases n
    rw [heq, ofYearMonthDay?] at h
    split at h
    · obtain rfl := Option.some.inj h
      rw [dayNumber_eq]
      exact hn.symm
    · cases h
  · rintro rfl
    have hyear : yearOf d.dayNumber = d.year := yearOf_eq d.dayNumber_mem.1 d.dayNumber_mem.2
    have htoNat : (d.dayNumber - daysBeforeYear d.year).toNat = d.dayOfYear := by
      rw [dayNumber_eq]
      omega
    obtain ⟨-, hmonth, hday, -⟩ := hasDay_iff.mp d.isValid
    rw [ofDayNumber?, hyear, htoNat, dayOfYear, splitDay_eq d.day_lt]
    simp only [show 1 + (d.month - 1) = d.month by omega, show d.day - 1 + 1 = d.day by omega]
    exact dif_pos d.isValid

/-- Two dates of one number are one date. -/
theorem dayNumber_injective : Function.Injective dayNumber := by
  intro a b h
  have ha : ofDayNumber? b.dayNumber = some a := ofDayNumber?_eq_some_iff.mpr h
  have hb : ofDayNumber? b.dayNumber = some b := ofDayNumber?_eq_some_iff.mpr rfl
  exact Option.some.inj (ha.symm.trans hb)

/-- Every number in the calendar's years is a date's. -/
theorem exists_dayNumber_eq (hfirst : daysBeforeYear firstYear ≤ n)
    (hlast : n < daysBeforeYear (lastYear + 1)) : ∃ d : Date, d.dayNumber = n := by
  obtain ⟨month, day, hmonth, hday, hlt, -, heq⟩ := ofDayNumber?_cases n
  obtain ⟨hle', hlt'⟩ := daysBeforeYear_yearOf n
  have hyear : firstYear ≤ yearOf n ∧ yearOf n ≤ lastYear :=
    ⟨year_le_of_daysBeforeYear hfirst hlt', year_le_of_daysBeforeYear hle' hlast⟩
  have hvalid : hasDay (yearOf n) month day = true := hasDay_iff.mpr ⟨hyear, hmonth, hday, hlt⟩
  exact ⟨⟨yearOf n, month, day, hvalid⟩, ofDayNumber?_eq_some_iff.mp (heq.trans (dif_pos hvalid))⟩

/-- **A number that is no date's lies before all dates' or after all.** -/
theorem ofDayNumber?_eq_none_iff : ofDayNumber? n = none ↔
    (∀ d : Date, n < d.dayNumber) ∨ ∀ d : Date, d.dayNumber < n := by
  constructor
  · intro h
    by_cases hfirst : daysBeforeYear firstYear ≤ n
    · by_cases hlast : n < daysBeforeYear (lastYear + 1)
      · obtain ⟨d, hd⟩ := exists_dayNumber_eq hfirst hlast
        rw [ofDayNumber?_eq_some_iff.mpr hd] at h
        cases h
      · exact Or.inr fun d => d.dayNumber_mem_calendar.2.trans_le (Int.not_lt.mp hlast)
    · exact Or.inl fun d => (Int.not_le.mp hfirst).trans_le d.dayNumber_mem_calendar.1
  · intro h
    refine Option.eq_none_iff_forall_ne_some.mpr fun d hn => ?_
    have hd : d.dayNumber = n := ofDayNumber?_eq_some_iff.mp hn
    rcases h with hbefore | hafter
    · exact (hbefore d).ne hd.symm
    · exact (hafter d).ne hd

/-! ## The order of dates -/

theorem compare_def (a b : Date) : compare a b =
    (compare a.year b.year).then ((compare a.month b.month).then (compare a.day b.day)) := rfl

/-- An earlier date has a smaller number. -/
theorem dayNumber_lt_of_compare {a b : Date} (h : compare a b = .lt) :
    a.dayNumber < b.dayNumber := by
  have ha := a.dayNumber_mem
  have hb := b.dayNumber_mem
  obtain ⟨-, hamonth, haday, -⟩ := hasDay_iff.mp a.isValid
  rw [compare_def, Ordering.then_eq_lt, Ordering.then_eq_lt, Int.compare_eq_lt, Nat.compare_eq_lt,
    Nat.compare_eq_lt, Int.compare_eq_eq, Nat.compare_eq_eq] at h
  rcases h with hyear | ⟨hyear, hmonth | ⟨hmonth, hday⟩⟩
  · have hyears := daysBeforeYear_strictMono.monotone (Int.add_one_le_of_lt hyear)
    omega
  · have hmonths := sum_take_add_getD_le (monthLengths a.year)
      (by omega : a.month - 1 < b.month - 1)
    have hlt := a.day_lt
    rw [dayNumber_eq, dayNumber_eq, dayOfYear, dayOfYear, ← hyear]
    omega
  · rw [dayNumber_eq, dayNumber_eq, dayOfYear, dayOfYear, ← hyear, ← hmonth]
    omega

/-- **Dates order as their numbers do.** -/
theorem compare_eq (a b : Date) : compare a b = compare a.dayNumber b.dayNumber := by
  have hswap : (compare a b).swap = compare b a := by
    rw [compare_def, compare_def, Ordering.swap_then, Ordering.swap_then, Int.compare_swap,
      Nat.compare_swap, Nat.compare_swap]
  cases h : compare a b with
  | lt => exact (Int.compare_eq_lt.mpr (dayNumber_lt_of_compare h)).symm
  | gt =>
    rw [h] at hswap
    exact (Int.compare_eq_gt.mpr (dayNumber_lt_of_compare hswap.symm)).symm
  | eq =>
    rw [compare_def, Ordering.then_eq_eq, Ordering.then_eq_eq, Int.compare_eq_eq,
      Nat.compare_eq_eq, Nat.compare_eq_eq] at h
    obtain ⟨hyear, hmonth, hday⟩ := h
    have hnumber : a.dayNumber = b.dayNumber := by rw [dayNumber, dayNumber, hyear, hmonth, hday]
    exact (Int.compare_eq_eq.mpr hnumber).symm

/-! ## Moving by days -/

/-- **Moving a date by days moves its number.** -/
theorem addDays?_eq_some_iff {e : Date} :
    d.addDays? n = some e ↔ e.dayNumber = d.dayNumber + n :=
  ofDayNumber?_eq_some_iff

/-- A date is moved out of the calendar only past all of its dates. -/
theorem addDays?_eq_none_iff : d.addDays? n = none ↔
    (∀ e : Date, d.dayNumber + n < e.dayNumber) ∨ ∀ e : Date, e.dayNumber < d.dayNumber + n :=
  ofDayNumber?_eq_none_iff

/-- **A window that begins some days before a date is exact**: where the
calendar has no such day, all of its days are in the window. -/
theorem all_addDays?_neg (h : 0 ≤ n) (today d : Date) :
    ((today.addDays? (-n)).all fun first => compare d first != .lt) = true ↔
      today.dayNumber - n ≤ d.dayNumber := by
  cases hfirst : today.addDays? (-n) with
  | none =>
    refine iff_of_true rfl ?_
    rcases addDays?_eq_none_iff.mp hfirst with hbefore | hafter
    · have hd := hbefore d
      omega
    · -- today is a day of the calendar, and follows the one that is not
      have htoday := hafter today
      omega
  | some first =>
    have hnumber := addDays?_eq_some_iff.mp hfirst
    rw [Option.all_some, bne_iff_ne, compare_eq, Int.compare_ne_lt, hnumber]
    omega

/-- And so is one that ends some days after it. -/
theorem all_addDays? (h : 0 ≤ n) (today d : Date) :
    ((today.addDays? n).all fun last => compare d last != .gt) = true ↔
      d.dayNumber ≤ today.dayNumber + n := by
  cases hlast : today.addDays? n with
  | none =>
    refine iff_of_true rfl ?_
    rcases addDays?_eq_none_iff.mp hlast with hbefore | hafter
    · have htoday := hbefore today
      omega
    · have hd := hafter d
      omega
  | some last =>
    have hnumber := addDays?_eq_some_iff.mp hlast
    rw [Option.all_some, bne_iff_ne, compare_eq, Int.compare_ne_gt, hnumber]

end Date

end Criteria

import Criteria.Proofs.Calendar.Stretch
import Criteria.Proofs.Leaf.Window
/-!
# Leaves — days, months and years

Moments may be wanted between two dates, on one date, in the month or in the
year of a date, or before another moment. Days, months and years are stretches
of dates, so each of these tests is one of the first kind; and a stretch of
dates is what lies between two midnights, that of its first day and that of the
day after its last, whatever the time of day. Where the calendar ends with the
stretch there is no second midnight, and no date beyond it either.
-/

namespace Criteria

/-- What is wrong with a stretch whose first date is after its last. -/
def Date.disorder (first last : Date) : Error :=
  .invalidArgument "min" (first.text ++ " is greater than max " ++ last.text)

/-- Dates always order, so a guard of dates has one thing to find wrong. -/
theorem Date.ensureOrdered_eq (first last : Date) : Guard.ensureOrdered first last =
    if compare first last = .gt then .error (disorder first last) else .ok () := by
  have hcompare : Bound.compare? first last = some (compare first last) := rfl
  rw [Guard.ensureOrdered, hcompare]
  cases compare first last <;> rfl

/-- Dates are in order where their numbers are. -/
theorem Date.compare_ne_gt_iff {first last : Date} :
    compare first last ≠ .gt ↔ first.dayNumber ≤ last.dayNumber := by
  rw [compare_eq, Int.compare_ne_gt]

namespace Leaf

variable {α : Type} {config : Config} {read : α → Moment} {first last : Date}

/-! ## Stretches of dates -/

/-- What the test of a stretch checks, if its dates are in order. -/
def inStretch (first last : Date) : Clock.Readings → Moment → Bool :=
  fun _ m => compare m.date first != .lt && compare m.date last != .gt

theorem inStretch_iff {r : Clock.Readings} {m : Moment} : inStretch first last r m = true ↔
    first.dayNumber ≤ m.date.dayNumber ∧ m.date.dayNumber ≤ last.dayNumber := by
  rw [inStretch, Bool.and_eq_true, bne_iff_ne, bne_iff_ne, Date.compare_eq, Date.compare_eq,
    Int.compare_ne_lt, Int.compare_ne_gt]

theorem check_between (clock : Clock) (h : compare first last ≠ .gt) :
    (MomentTest.between first last).check clock = .ok (inStretch first last) := by
  rw [MomentTest.check, Date.ensureOrdered_eq, if_neg h]
  rfl

/-- A stretch with its dates in order is taken by every filter. -/
theorem refusal?_addLeaf_between (f : Filter α) (read : α → Moment) (h : compare first last ≠ .gt) :
    (f.addLeaf (moment read (.between first last))).refusal? = none := by
  have hconditions : (moment read (.between first last)).conditions f.config =
      .ok [(Condition.ofTimedTest (inStretch first last)).via read] := by
    rw [conditions, MomentTest.condition, check_between f.config.clock h]
    rfl
  rw [Filter.addLeaf_of_ok hconditions]

/-- And no other is, and leaves no trace. -/
theorem addLeaf_between_of_gt (f : Filter α) (read : α → Moment) (h : compare first last = .gt) :
    f.addLeaf (moment read (.between first last)) = ⟨f, some (Date.disorder first last)⟩ := by
  refine Filter.addLeaf_of_error ?_
  rw [conditions, MomentTest.condition, MomentTest.check, Date.ensureOrdered_eq, if_pos h]
  rfl

theorem accepts_between_iff (config : Config) (read : α → Moment) (h : compare first last ≠ .gt)
    (r : Clock.Readings) (item : α) :
    accepts config [moment read (.between first last)] r item = true ↔
      first.dayNumber ≤ (read item).date.dayNumber ∧
        (read item).date.dayNumber ≤ last.dayNumber := by
  rw [accepts_moment (check_between config.clock h), inStretch_iff]

/-! ## Tests of one date or midnight -/

theorem accepts_midnight_iff (config : Config) (read : α → Moment) (d : Date) (r : Clock.Readings)
    (item : α) : accepts config [moment read (.before ⟨d, .midnight⟩)] r item = true ↔
      (read item).date.dayNumber < d.dayNumber := by
  rw [accepts_moment rfl, beq_iff_eq, Moment.compare_midnight_iff]

theorem accepts_on_iff (config : Config) (read : α → Moment) (d : Date) (r : Clock.Readings)
    (item : α) : accepts config [moment read (.on d)] r item = true ↔
      d.dayNumber ≤ (read item).date.dayNumber ∧ (read item).date.dayNumber ≤ d.dayNumber := by
  rw [accepts_moment rfl, beq_iff_eq, ← Date.dayNumber_injective.eq_iff, and_comm,
    ← Int.le_antisymm_iff]

theorem accepts_sameMonth_iff (config : Config) (read : α → Moment) (d : Date)
    (r : Clock.Readings) (item : α) : accepts config [moment read (.sameMonth d)] r item = true ↔
      d.monthStart.dayNumber ≤ (read item).date.dayNumber ∧
        (read item).date.dayNumber ≤ d.monthEnd.dayNumber := by
  rw [accepts_moment rfl, Bool.and_eq_true, beq_iff_eq, beq_iff_eq, Date.sameMonth_iff]

theorem accepts_sameYear_iff (config : Config) (read : α → Moment) (d : Date)
    (r : Clock.Readings) (item : α) : accepts config [moment read (.sameYear d)] r item = true ↔
      d.yearStart.dayNumber ≤ (read item).date.dayNumber ∧
        (read item).date.dayNumber ≤ d.yearEnd.dayNumber := by
  rw [accepts_moment rfl, beq_iff_eq, Date.sameYear_iff]

/-- **Tests of the calendar agree with each other and with midnights.** A filter
refuses a stretch of dates whose first is after its last, and stays as it was,
and takes every other. The stretch then accepts the moments that are not before
the midnight of its first day and are before that of the day after its last,
where the calendar has that day, at every time of day. The test of one date is
that of the stretch of this date alone, the test of a month that of the stretch
from the first of the month to its last day, and the test of a year that of the
stretch from the first of January to the last of December; and no filter refuses
one of these stretches. -/
theorem calendar_exact (config : Config) (read : α → Moment) :
    let on (t : MomentTest) (r : Clock.Readings) (item : α) : Bool :=
      accepts config [moment read t] r item
    (∀ first last : Date,
        (compare first last = .gt → ∀ f : Filter α,
          f.addLeaf (moment read (.between first last)) = ⟨f, some (Date.disorder first last)⟩) ∧
        (compare first last ≠ .gt →
          (∀ f : Filter α, (f.addLeaf (moment read (.between first last))).refusal? = none) ∧
            ∀ r item, on (.between first last) r item = true ↔
              on (.before ⟨first, .midnight⟩) r item = false ∧
                ∀ next, last.addDays? 1 = some next →
                  on (.before ⟨next, .midnight⟩) r item = true)) ∧
      ∀ d : Date,
        (∀ stretch ∈ [(d, d), (d.monthStart, d.monthEnd), (d.yearStart, d.yearEnd)],
          compare stretch.1 stretch.2 ≠ .gt) ∧
        ∀ r item, on (.on d) r item = on (.between d d) r item ∧
          on (.sameMonth d) r item = on (.between d.monthStart d.monthEnd) r item ∧
          on (.sameYear d) r item = on (.between d.yearStart d.yearEnd) r item := by
  intro on
  have hmonth (d : Date) : compare d.monthStart d.monthEnd ≠ .gt := by
    obtain ⟨hstart, hend⟩ := (Date.sameMonth_iff (d := d)).mp ⟨rfl, rfl⟩
    exact Date.compare_ne_gt_iff.mpr (hstart.trans hend)
  have hyear (d : Date) : compare d.yearStart d.yearEnd ≠ .gt := by
    obtain ⟨hstart, hend⟩ := (Date.sameYear_iff (d := d)).mp rfl
    exact Date.compare_ne_gt_iff.mpr (hstart.trans hend)
  have hday (d : Date) : compare d d ≠ .gt := Date.compare_ne_gt_iff.mpr le_rfl
  refine ⟨fun first last => ⟨fun h f => addLeaf_between_of_gt f read h, fun h => ⟨fun f => ?_,
    fun r item => ?_⟩⟩, fun d => ⟨?_, fun r item => ⟨?_, ?_, ?_⟩⟩⟩
  · exact refusal?_addLeaf_between f read h
  · rw [accepts_between_iff config read h, Date.between_iff, ← Bool.not_eq_true,
      accepts_midnight_iff]
    simp only [on, accepts_midnight_iff]
  · simp only [List.forall_mem_cons]
    exact ⟨hday d, hmonth d, hyear d, List.forall_mem_nil _⟩
  · rw [Bool.eq_iff_iff, accepts_on_iff, accepts_between_iff config read (hday d)]
  · rw [Bool.eq_iff_iff, accepts_sameMonth_iff, accepts_between_iff config read (hmonth d)]
  · rw [Bool.eq_iff_iff, accepts_sameYear_iff, accepts_between_iff config read (hyear d)]

/-- In the leap second that ends a year: the moment is of its own date, and
before the midnight that follows. Out of order the two dates are refused. -/
theorem calendar_exact_leapSecond :
    let last : Date := ⟨2016, 12, 31, by decide⟩
    let next : Date := ⟨2017, 1, 1, by decide⟩
    let m : Moment := ⟨last, ⟨86399, 1500000000, by decide⟩⟩
    let on (t : MomentTest) : Bool := accepts .standard [moment id t] ⟨m, m⟩ m
    let f : Filter Moment := .ofConfig .standard
    (compare last last ≠ .gt ∧ last.addDays? 1 = some next) ∧
      on (.before ⟨last, .midnight⟩) = false ∧ on (.before ⟨next, .midnight⟩) = true ∧
      compare next last = .gt ∧
      f.addLeaf (moment id (.between next last)) = ⟨f, some (Date.disorder next last)⟩ := by
  intro last next m on f
  obtain ⟨hstretch, -⟩ := calendar_exact .standard (id : Moment → Moment)
  have hordered : compare last last ≠ .gt := by decide
  have hnext : last.addDays? 1 = some next := by decide
  have hgt : compare next last = .gt := by decide
  have hbetween : on (.between last last) = true := by decide
  obtain ⟨hfirst, hbefore⟩ := (((hstretch last last).2 hordered).2 ⟨m, m⟩ m).mp hbetween
  exact ⟨⟨hordered, hnext⟩, hfirst, hbefore next hnext, hgt, (hstretch next last).1 hgt f⟩

end Leaf

end Criteria

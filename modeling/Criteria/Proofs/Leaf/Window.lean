import Criteria.Proofs.Calendar.DayNumber
import Criteria.Proofs.Leaf.Accepted
/-!
# Leaves — windows of days

Whether a moment lies on a day near today, or in a window of days that today
is in, is a question about the day numbers of the two. The tests ask it of
dates: they move today, and where the calendar has no such day a window is
open and a single day is missed. By the numbers the two come to the same,
since no date lies beyond the calendar's ends.
-/

namespace Criteria

theorem Guard.ensurePositive_of_pos {name : String} {n : Int} (h : 0 < n) :
    ensurePositive name n = .ok () :=
  if_neg (Int.not_le.mpr h)

namespace Leaf

variable {α : Type} {config : Config} {read : α → Moment} {n : Int}

/-- What is wrong with a window of no days. -/
def noDays (n : Int) : Error := .outOfRange "days" n "must be greater than zero"

/-- A leaf of moments accepts what its test checks. -/
theorem accepts_moment {t : MomentTest} {holds : Clock.Readings → Moment → Bool}
    (h : t.check config.clock = .ok holds) (read : α → Moment) (r : Clock.Readings) (item : α) :
    accepts config [moment read t] r item = holds r (read item) := by
  have hconditions : (moment read t).conditions config =
      .ok [(Condition.ofTimedTest holds).via read] := by
    rw [conditions, MomentTest.condition, h]
    rfl
  rw [accepts_of_ok hconditions]
  rfl

/-! ## Single days -/

theorem accepts_today_iff (config : Config) (read : α → Moment) (r : Clock.Readings) (item : α) :
    accepts config [moment read .today] r item = true ↔
      (read item).date.dayNumber = (config.clock.today r).dayNumber := by
  rw [accepts_moment rfl, beq_iff_eq, Date.dayNumber_injective.eq_iff]

theorem accepts_yesterday_iff (config : Config) (read : α → Moment) (r : Clock.Readings)
    (item : α) : accepts config [moment read .yesterday] r item = true ↔
      (read item).date.dayNumber = (config.clock.today r).dayNumber - 1 := by
  rw [accepts_moment rfl, beq_iff_eq, Date.addDays?_eq_some_iff, Int.sub_eq_add_neg]

theorem accepts_tomorrow_iff (config : Config) (read : α → Moment) (r : Clock.Readings)
    (item : α) : accepts config [moment read .tomorrow] r item = true ↔
      (read item).date.dayNumber = (config.clock.today r).dayNumber + 1 := by
  rw [accepts_moment rfl, beq_iff_eq, Date.addDays?_eq_some_iff]

/-! ## Windows -/

theorem accepts_lastDays_iff (config : Config) (read : α → Moment) (h : 0 < n)
    (r : Clock.Readings) (item : α) : accepts config [moment read (.lastDays n)] r item = true ↔
      (config.clock.today r).dayNumber - n ≤ (read item).date.dayNumber := by
  have hcheck : (MomentTest.lastDays n).check config.clock =
      .ok fun r m => ((config.clock.today r).addDays? (-n)).all (compare m.date · != .lt) := by
    rw [MomentTest.check, Guard.ensurePositive_of_pos h]
    rfl
  rw [accepts_moment hcheck]
  exact Date.all_addDays?_neg (Int.le_of_lt h) _ _

theorem accepts_nextDays_iff (config : Config) (read : α → Moment) (h : 0 < n)
    (r : Clock.Readings) (item : α) : accepts config [moment read (.nextDays n)] r item = true ↔
      (read item).date.dayNumber ≤ (config.clock.today r).dayNumber + n := by
  have hcheck : (MomentTest.nextDays n).check config.clock =
      .ok fun r m => ((config.clock.today r).addDays? n).all (compare m.date · != .gt) := by
    rw [MomentTest.check, Guard.ensurePositive_of_pos h]
    rfl
  rw [accepts_moment hcheck]
  exact Date.all_addDays? (Int.le_of_lt h) _ _

/-- A test that asks no more of its count than that it is positive is refused
where it is not. -/
theorem refusal?_addLeaf_moment {t : MomentTest} {k : Unit → Clock.Readings → Moment → Bool}
    (f : Filter α) (read : α → Moment)
    (h : t.check f.config.clock = (Guard.ensurePositive "days" n).map k) :
    (f.addLeaf (moment read t)).refusal? = if n ≤ 0 then some (noDays n) else none := by
  by_cases hn : n ≤ 0
  · have hconditions : (moment read t).conditions f.config = .error (noDays n) := by
      rw [conditions, MomentTest.condition, h, Guard.ensurePositive, if_pos hn]
      rfl
    rw [Filter.addLeaf_of_error hconditions, if_pos hn]
  · have hconditions : (moment read t).conditions f.config =
        .ok [(Condition.ofTimedTest (k ())).via read] := by
      rw [conditions, MomentTest.condition, h, Guard.ensurePositive, if_neg hn]
      rfl
    rw [Filter.addLeaf_of_ok hconditions, if_neg hn]

/-- **Windows of days are exact at every size, and at the calendar's ends.**
Every filter refuses a window of no days, as out of range, and takes every
other. The last days then are those whose number is no less than today's less
the window, and the next days those whose number is no more than today's and
the window, also where the calendar has no day at the far end. No moment lies
on two of yesterday, today and tomorrow, and it lies on one of them exactly
where it lies both in the last day and in the next. -/
theorem dayWindows_exact (config : Config) (read : α → Moment) (n : Int) (r : Clock.Readings)
    (item : α) :
    let today := (config.clock.today r).dayNumber
    let day := (read item).date.dayNumber
    let on (t : MomentTest) : Bool := accepts config [moment read t] r item
    (∀ f : Filter α, ∀ t ∈ [MomentTest.lastDays n, .nextDays n],
        (f.addLeaf (moment read t)).refusal? = if n ≤ 0 then some (noDays n) else none) ∧
      (0 < n → (on (.lastDays n) = true ↔ today - n ≤ day) ∧
        (on (.nextDays n) = true ↔ day ≤ today + n)) ∧
      [on .yesterday, on .today, on .tomorrow].count true ≤ 1 ∧
      (on .yesterday || on .today || on .tomorrow) = (on (.lastDays 1) && on (.nextDays 1)) := by
  intro today day on
  have hyesterday : on .yesterday = true ↔ day = today - 1 := accepts_yesterday_iff config read r item
  have htoday : on .today = true ↔ day = today := accepts_today_iff config read r item
  have htomorrow : on .tomorrow = true ↔ day = today + 1 := accepts_tomorrow_iff config read r item
  have hlast : on (.lastDays 1) = true ↔ today - 1 ≤ day :=
    accepts_lastDays_iff config read Int.one_pos r item
  have hnext : on (.nextDays 1) = true ↔ day ≤ today + 1 :=
    accepts_nextDays_iff config read Int.one_pos r item
  refine ⟨fun f t ht => ?_, fun hn => ⟨?_, ?_⟩, ?_, ?_⟩
  · rcases List.mem_pair.mp ht with rfl | rfl
    · exact refusal?_addLeaf_moment f read rfl
    · exact refusal?_addLeaf_moment f read rfl
  · exact accepts_lastDays_iff config read hn r item
  · exact accepts_nextDays_iff config read hn r item
  · -- a day is not at two distances from today
    have hdisjoint : ¬ (on .yesterday = true ∧ on .today = true) ∧
        ¬ (on .yesterday = true ∧ on .tomorrow = true) ∧
        ¬ (on .today = true ∧ on .tomorrow = true) := by
      rw [hyesterday, htoday, htomorrow]
      omega
    revert hdisjoint
    cases on .yesterday <;> cases on .today <;> cases on .tomorrow <;> decide
  · rw [Bool.eq_iff_iff, Bool.or_eq_true, Bool.or_eq_true, Bool.and_eq_true, hyesterday, htoday,
      htomorrow, hlast, hnext]
    omega

/-- On the calendar's last day, with the largest count that a message can name:
both windows hold of it, and the calendar has a day at neither of their
ends. -/
theorem dayWindows_exact_lastDay :
    let last : Date := ⟨Calendar.lastYear, 12, 31, by decide⟩
    let m : Moment := ⟨last, .midnight⟩
    let n : Int := Guard.largest
    let on (t : MomentTest) : Bool := accepts .standard [moment id t] ⟨m, m⟩ m
    0 < n ∧ last.addDays? n = none ∧ last.addDays? (-n) = none ∧
      on (.lastDays n) = true ∧ on (.nextDays n) = true := by
  intro last m n on
  have hn : 0 < n := by decide
  obtain ⟨-, hwindows, -⟩ := dayWindows_exact .standard id n ⟨m, m⟩ m
  obtain ⟨hlast, hnext⟩ := hwindows hn
  exact ⟨hn, by decide, by decide, hlast.mpr (by decide), hnext.mpr (by decide)⟩

end Leaf

end Criteria

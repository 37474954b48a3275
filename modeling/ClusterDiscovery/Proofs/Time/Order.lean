/-
The order of dates.

Dates are ordered by year, month and day, and every date has one before it: the day before, or
the last day of the month before. Counted back on the calendar in this way, dates keep step with
the numbers of their days, across months, leap years and the start of 1970. So the order of dates
is the order of their numbers.
-/

import ClusterDiscovery.Proofs.Time.Calendar
import Mathlib.Logic.Function.Iterate
import Mathlib.Tactic.IntervalCases

namespace ClusterDiscovery.Time

namespace Date

/-- A date comes before another one: by its year, in one year by its month, and in one month by
its day. -/
def lt (first second : Date) : Prop :=
  first.year < second.year ∨ first.year = second.year ∧
    (first.month < second.month ∨ first.month = second.month ∧ first.day < second.day)

instance : LT Date := ⟨lt⟩

instance : LE Date := ⟨fun first second => first < second ∨ first = second⟩

theorem lt_iff {first second : Date} : first < second ↔
    first.year < second.year ∨ first.year = second.year ∧
      (first.month < second.month ∨ first.month = second.month ∧ first.day < second.day) :=
  Iff.rfl

theorem le_iff {first second : Date} : first ≤ second ↔ first < second ∨ first = second := Iff.rfl

theorem lt_irrefl (date : Date) : ¬ date < date := by
  rw [lt_iff]
  omega

theorem lt_trans {first second third : Date} (earlier : first < second) (later : second < third) :
    first < third := by
  rw [lt_iff] at *
  omega

def previous (date : Date) : Date :=
  if 1 < date.day then { date with day := date.day - 1 }
  else if 1 < date.month then
    ⟨date.year, date.month - 1, daysInMonth date.year (date.month - 1)⟩
  else ⟨date.year - 1, 12, 31⟩

example : previous ⟨2020, 3, 1⟩ = ⟨2020, 2, 29⟩ := by decide

example : previous ⟨1970, 1, 1⟩ = ⟨1969, 12, 31⟩ := by decide

theorem daysInMonth_bounds (year month : Int) :
    28 ≤ daysInMonth year month ∧ daysInMonth year month ≤ 31 := by
  unfold daysInMonth
  split
  · split <;> omega
  · split <;> omega

theorem valid_previous {date : Date} (valid : date.Valid) : date.previous.Valid := by
  obtain ⟨firstMonth, lastMonth, firstDay, lastDay⟩ := valid
  have before := daysInMonth_bounds date.year (date.month - 1)
  unfold previous Valid
  split
  · simp only
    omega
  · split
    · simp only
      omega
    · have december : daysInMonth (date.year - 1) 12 = 31 := rfl
      simp only
      omega

theorem previous_lt (date : Date) : date.previous < date := by
  rw [lt_iff]
  unfold previous
  by_cases inMonth : 1 < date.day
  · simp only [if_pos inMonth, true_and]
    omega
  · by_cases inYear : 1 < date.month
    · simp only [if_neg inMonth, if_pos inYear, true_and]
      omega
    · simp only [if_neg inMonth, if_neg inYear]
      omega

theorem number_previous {date : Date} (valid : date.Valid) :
    date.previous.number = date.number - 1 := by
  obtain ⟨year, month, day⟩ := date
  obtain ⟨firstMonth, lastMonth, firstDay, lastDay⟩ := valid
  unfold previous
  simp only at *
  by_cases inMonth : 1 < day
  · rw [if_pos inMonth]
    unfold number
    simp only
    omega
  · obtain rfl : day = 1 := by omega
    rw [if_neg inMonth]
    by_cases inYear : 1 < month
    · rw [if_pos inYear]
      unfold number daysInMonth isLeapYear epochOffset daysPerCycle
      -- only the end of February falls into the year before, and only its length varies
      interval_cases month <;> simp only [Int.reduceSub, Int.reduceLE, Int.reduceEq,
        Bool.and_eq_true, Bool.or_eq_true, beq_iff_eq, bne_iff_ne, if_true, if_false,
        or_false, or_true] <;> omega
    · obtain rfl : month = 1 := by omega
      rw [if_neg inYear]
      unfold number
      simp only [Int.reduceLE, if_true, if_false]
      omega

theorem dayOfYear_bounds {march fromMarch day : Int} (firstMonth : 0 ≤ fromMarch)
    (lastMonth : fromMarch ≤ 11) (firstDay : 1 ≤ day)
    (lastDay : day ≤ daysInMonth (if fromMarch < 10 then march else march + 1)
      (if fromMarch < 10 then fromMarch + 3 else fromMarch - 9)) :
    0 ≤ (153 * fromMarch + 2) / 5 + day - 1 ∧ (153 * fromMarch + 2) / 5 + day - 1 ≤ 365 ∧
      (5 * ((153 * fromMarch + 2) / 5 + day - 1) + 2) / 153 = fromMarch ∧
      ((153 * fromMarch + 2) / 5 + day - 1 = 365 →
        march % 4 = 3 ∧ (march % 100 / 4 = 24 → march % 400 / 100 = 3)) := by
  unfold daysInMonth isLeapYear at lastDay
  interval_cases fromMarch <;>
    simp only [Int.reduceAdd, Int.reduceSub, Int.reduceLT, Int.reduceEq, Bool.and_eq_true,
      Bool.or_eq_true, beq_iff_eq, bne_iff_ne, if_true, if_false, or_false, or_true] at lastDay <;>
    omega

theorem exists_place_of_valid {date : Date} (valid : date.Valid) :
    ∃ place : Place, place.date = date := by
  obtain ⟨year, month, day⟩ := date
  obtain ⟨firstMonth, lastMonth, firstDay, lastDay⟩ := valid
  simp only at *
  obtain ⟨march, fromMarch, march0, march11, sameYear, sameMonth⟩ : ∃ march fromMarch : Int,
      0 ≤ fromMarch ∧ fromMarch ≤ 11 ∧
        year = (if fromMarch < 10 then march else march + 1) ∧
        month = (if fromMarch < 10 then fromMarch + 3 else fromMarch - 9) := by
    by_cases early : month ≤ 2
    · exact ⟨year - 1, month + 9, by omega, by omega, by omega, by omega⟩
    · exact ⟨year, month - 3, by omega, by omega, by omega, by omega⟩
  rw [sameYear, sameMonth] at lastDay
  obtain ⟨day0, day365, inMonth, leap⟩ := dayOfYear_bounds march0 march11 firstDay lastDay
  refine ⟨⟨march / 400, march % 400 / 100, march % 100 / 4, march % 4,
    (153 * fromMarch + 2) / 5 + day - 1, by omega, by omega, by omega, ⟨day0, day365⟩, leap⟩, ?_⟩
  unfold Place.date Place.dayOfMonth Place.month Place.year
  simp only [inMonth]
  split
  · rename_i early
    rw [if_pos early] at sameYear sameMonth
    rw [mk.injEq]
    omega
  · rename_i late
    rw [if_neg late] at sameYear sameMonth
    rw [mk.injEq]
    omega

theorem ofNumber_number {date : Date} (valid : date.Valid) : ofNumber date.number = date := by
  obtain ⟨place, rfl⟩ := exists_place_of_valid valid
  rw [place.number_date, ofNumber_place]

theorem ofNumber_pred (number : Int) : ofNumber (number - 1) = (ofNumber number).previous := by
  have valid := valid_previous (valid_ofNumber number)
  rw [← ofNumber_number valid, number_previous (valid_ofNumber number), number_ofNumber]

theorem ofNumber_sub (number : Int) (days : Nat) :
    ofNumber (number - days) = previous^[days] (ofNumber number) := by
  induction days with
  | zero => simp
  | succ days ih =>
      rw [Function.iterate_succ_apply', ← ih, ← ofNumber_pred]
      congr 1
      omega

theorem previous_iterate_le (date : Date) (days : Nat) : previous^[days] date ≤ date := by
  induction days with
  | zero => exact Or.inr rfl
  | succ days ih =>
      rw [Function.iterate_succ_apply']
      left
      rcases ih with earlier | same
      · exact lt_trans (previous_lt _) earlier
      · rw [same]
        exact previous_lt date

theorem ofNumber_le_ofNumber {first second : Int} :
    ofNumber first ≤ ofNumber second ↔ first ≤ second := by
  have back (first second : Int) (later : first ≤ second) :
      ofNumber first ≤ ofNumber second := by
    obtain ⟨days, rfl⟩ : ∃ days : Nat, first = second - days := ⟨(second - first).toNat, by omega⟩
    rw [ofNumber_sub]
    exact previous_iterate_le _ days
  refine ⟨fun before => ?_, back first second⟩
  by_contra later
  rcases back second first (by omega) with earlier | same
  · rcases before with before | same
    · exact lt_irrefl _ (lt_trans before earlier)
    · rw [same] at earlier
      exact lt_irrefl _ earlier
  · have sameNumber := congrArg number same
    rw [number_ofNumber, number_ofNumber] at sameNumber
    omega

end Date

end ClusterDiscovery.Time

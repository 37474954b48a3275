/-
Where a cutoff leaves the bounds of instants.

A filter is valid for every bound that is not negative, but days are counted back from now
only as far as the first day of instants. In the years of four digits a bound of less than
some ninety-six million days is always within reach, and one of more than some ninety-nine
million never is.
-/

import ClusterDiscovery.Inventory.Cutoff
import ClusterDiscovery.Proofs.Time.Calendar

namespace ClusterDiscovery

namespace Time

def firstPlainDay : Int := -719528

def lastPlainDay : Int := 2932896

example : (Date.mk 0 1 1).number = firstPlainDay := by decide

example : (Date.mk 9999 12 31).number = lastPlainDay := by decide

/-- The year is written with four digits. -/
def Instant.HasPlainYear (now : Instant) : Prop := 0 ≤ now.date.year ∧ now.date.year ≤ 9999

instance (now : Instant) : Decidable now.HasPlainYear := inferInstanceAs (Decidable (_ ∧ _))

theorem Instant.HasPlainYear.day_bounds {now : Instant} (plain : now.HasPlainYear) :
    firstPlainDay ≤ now.day ∧ now.day ≤ lastPlainDay := by
  obtain ⟨low, high⟩ := plain
  unfold date at low high
  obtain ⟨place, same⟩ := Date.exists_place now.day
  rw [← same, Date.ofNumber_place] at low high
  rw [← same]
  obtain ⟨cycle, century, quad, rest, day, century3, quad24, rest3, day365, leap⟩ := place
  unfold Date.Place.date at low high
  unfold Date.Place.number Date.Place.dayOfCycle firstPlainDay lastPlainDay epochOffset
    daysPerCycle
  split at low
  · rename_i sameYear
    simp only [if_pos sameYear] at high
    unfold Date.Place.year at low high
    unfold Date.Place.month at sameYear
    simp only at *
    omega
  · rename_i nextYear
    simp only [if_neg nextYear] at high
    unfold Date.Place.year at low high
    unfold Date.Place.month at nextYear
    simp only at *
    omega

theorem Instant.midnight?_eq_none_iff {day : Int} : midnight? day = none ↔ ¬ InRange day := by
  unfold midnight?
  split <;> simp_all

end Time

open Time (Instant)

namespace Inventory

theorem referenceDay_bounds (now : Instant) (days : Int) :
    now.day ≤ referenceDay now days ∧ referenceDay now days ≤ now.day + 1 := by
  unfold referenceDay Instant.day Time.secondsPerDay
  split <;> omega

theorem cutoff?_eq_none_iff {now : Instant} {days : Int} (positive : 0 < days) :
    cutoff? now days = none ↔ referenceDay now days - days < Time.firstDay := by
  have span : max days 0 = days := by omega
  have latest := (referenceDay_bounds now days).2
  have inRange : now.day ≤ Time.lastDay := now.inRange.2
  unfold cutoff?
  simp only [span]
  split
  · rw [Instant.midnight?_eq_none_iff]
    unfold Time.InRange
    omega
  · rename_i tooLong
    unfold greatestSpan at tooLong
    unfold Time.lastDay at inRange
    unfold Time.firstDay
    simp only [true_iff]
    omega

def surelyInReach : Int := Time.firstPlainDay - Time.firstDay

/-- The greatest bound that is within reach in any year of four digits: a leap second at the
end of the last of them counts with the day after it. -/
def possiblyInReach : Int := Time.lastPlainDay + 1 - Time.firstDay

example : surelyInReach = 95745764 ∧ possiblyInReach = 99398189 := by decide

theorem cutoff?_ne_none {now : Instant} {days : Int} (plain : now.HasPlainYear)
    (positive : 0 < days) (near : days ≤ surelyInReach) : cutoff? now days ≠ none := by
  have earliest := (referenceDay_bounds now days).1
  have first := plain.day_bounds.1
  unfold surelyInReach at near
  rw [ne_eq, cutoff?_eq_none_iff positive]
  omega

theorem cutoff?_eq_none {now : Instant} {days : Int} (plain : now.HasPlainYear)
    (far : possiblyInReach < days) : cutoff? now days = none := by
  have latest := (referenceDay_bounds now days).2
  have last := plain.day_bounds.2
  have positive : 0 < days := Int.lt_trans (by decide) far
  unfold possiblyInReach at far
  rw [cutoff?_eq_none_iff positive]
  omega

end Inventory

namespace Filter

variable {filter : Filter} {now : Instant}

theorem problem?_eq_none_iff :
    filter.problem? = none ↔ 0 ≤ filter.lastActive ∧ filter.firstBadVersion? = none := by
  unfold problem?
  split
  · rename_i negative
    simp only [reduceCtorEq, false_iff]
    omega
  · rename_i positive
    rw [Option.map_eq_none_iff]
    constructor
    · intro noneBad
      exact ⟨by omega, noneBad⟩
    · exact And.right

/-- The bound of a filter is out of reach: counted back from now it leaves the bounds of
instants. -/
def OutOfReach (filter : Filter) (now : Instant) : Prop :=
  0 < filter.lastActive ∧
    Inventory.referenceDay now filter.lastActive - filter.lastActive < Time.firstDay

instance : Decidable (filter.OutOfReach now) := inferInstanceAs (Decidable (_ ∧ _))

theorem cutoff?_eq_none_iff : filter.cutoff? now = none ↔ filter.OutOfReach now := by
  unfold cutoff? boundsActivity OutOfReach
  by_cases positive : 0 < filter.lastActive
  · simp only [positive, decide_true, if_true, Option.map_eq_none_iff, true_and]
    exact Inventory.cutoff?_eq_none_iff positive
  · simp [positive]

theorem searchTerm?_eq_none_iff : filter.searchTerm? now = none ↔ filter.OutOfReach now := by
  unfold searchTerm?
  rw [Option.map_eq_none_iff, cutoff?_eq_none_iff]

theorem not_outOfReach (plain : now.HasPlainYear)
    (near : filter.lastActive ≤ Inventory.surelyInReach) : ¬ filter.OutOfReach now := by
  rintro ⟨positive, beyond⟩
  exact Inventory.cutoff?_ne_none plain positive near
    ((Inventory.cutoff?_eq_none_iff positive).mpr beyond)

theorem outOfReach (plain : now.HasPlainYear)
    (far : Inventory.possiblyInReach < filter.lastActive) : filter.OutOfReach now := by
  have positive : 0 < filter.lastActive := Int.lt_trans (by decide) far
  exact ⟨positive,
    (Inventory.cutoff?_eq_none_iff positive).mp (Inventory.cutoff?_eq_none plain far)⟩

end Filter

end ClusterDiscovery

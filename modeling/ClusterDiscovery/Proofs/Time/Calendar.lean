/-
Dates and the numbers of their days.

Every day has a place: a cycle of four hundred years, a century of the cycle, four years of
the century, one of these years, and a day of the year, where years begin in March. Its date
is read off the place without any division by the length of a year. So the date is one of the
calendar, and its number is the number of the day.
-/

import ClusterDiscovery.Time.Calendar

namespace ClusterDiscovery.Time

namespace Date

/-- The place of a day. Only the last of four years has a day more than the others, and not
the last of a century, unless the century is the last of its cycle. -/
structure Place where
  cycle : Int
  century : Int
  quad : Int
  rest : Int
  day : Int
  centuryBounds : 0 ≤ century ∧ century ≤ 3
  quadBounds : 0 ≤ quad ∧ quad ≤ 24
  restBounds : 0 ≤ rest ∧ rest ≤ 3
  dayBounds : 0 ≤ day ∧ day ≤ 365
  leapDay : day = 365 → rest = 3 ∧ (quad = 24 → century = 3)

namespace Place

variable (place : Place)

def year : Int := 100 * place.century + 4 * place.quad + place.rest

def dayOfCycle : Int :=
  36524 * place.century + 1461 * place.quad + 365 * place.rest + place.day

def number : Int := place.cycle * daysPerCycle + place.dayOfCycle - epochOffset

def month : Int := (5 * place.day + 2) / 153

def dayOfMonth : Int := place.day - (153 * place.month + 2) / 5 + 1

def date : Date :=
  if place.month < 10 then ⟨place.year + place.cycle * 400, place.month + 3, place.dayOfMonth⟩
  else ⟨place.year + place.cycle * 400 + 1, place.month - 9, place.dayOfMonth⟩

/-- A cycle has a day more than its four centuries, at its end. -/
theorem inCentury_bounds :
    0 ≤ 1461 * place.quad + 365 * place.rest + place.day ∧
      (1461 * place.quad + 365 * place.rest + place.day ≤ 36523 ∨
        1461 * place.quad + 365 * place.rest + place.day = 36524 ∧ place.century = 3) := by
  obtain ⟨cycle, century, quad, rest, day, century3, quad24, rest3, day365, leap⟩ := place
  simp only
  by_cases final : day = 365
  · have last := leap final
    omega
  · omega

theorem dayOfCycle_bounds : 0 ≤ place.dayOfCycle ∧ place.dayOfCycle < daysPerCycle := by
  have inCentury := place.inCentury_bounds
  have ofCentury := place.centuryBounds
  unfold dayOfCycle daysPerCycle
  omega

theorem century_eq :
    place.dayOfCycle / 36524 - place.dayOfCycle / 146096 = place.century := by
  have inCentury := place.inCentury_bounds
  have ofCentury := place.centuryBounds
  have parted : place.dayOfCycle =
      36524 * place.century + (1461 * place.quad + 365 * place.rest + place.day) := by
    unfold dayOfCycle
    omega
  generalize 1461 * place.quad + 365 * place.rest + place.day = days at *
  omega

theorem yearOfCycle_eq :
    (place.dayOfCycle - place.dayOfCycle / 1460 + place.dayOfCycle / 36524 -
      place.dayOfCycle / 146096) / 365 = place.year := by
  have centuries := place.century_eq
  obtain ⟨cycle, century, quad, rest, day, century3, quad24, rest3, day365, leap⟩ := place
  unfold dayOfCycle at *
  unfold year
  simp only at *
  -- counted in years of 1460 days by four, the leap days before the day make up for one day
  -- once the last of the years is nearly over
  by_cases late : 1460 ≤ 24 * century + quad + 365 * rest + day
  · omega
  · omega

theorem dayOfYear_eq :
    place.dayOfCycle - (365 * place.year + place.year / 4 - place.year / 100) = place.day := by
  obtain ⟨cycle, century, quad, rest, day, century3, quad24, rest3, day365, leap⟩ := place
  unfold dayOfCycle year
  simp only
  omega

end Place

theorem exists_place (number : Int) : ∃ place : Place, place.number = number := by
  obtain ⟨cycle, dayOfCycle, parted, first, last⟩ : ∃ cycle dayOfCycle : Int,
      number + epochOffset = cycle * daysPerCycle + dayOfCycle ∧ 0 ≤ dayOfCycle ∧
        dayOfCycle < daysPerCycle := by
    refine ⟨(number + epochOffset) / daysPerCycle, (number + epochOffset) % daysPerCycle,
      ?_, ?_, ?_⟩ <;> unfold daysPerCycle <;> omega
  unfold daysPerCycle at last
  obtain ⟨century, inCentury, same, century3, day0, longest⟩ :
      ∃ century inCentury : Int, dayOfCycle = 36524 * century + inCentury ∧
        (0 ≤ century ∧ century ≤ 3) ∧ 0 ≤ inCentury ∧
        (inCentury ≤ 36523 ∨ inCentury = 36524 ∧ century = 3) := by
    by_cases final : dayOfCycle = 146096
    · exact ⟨3, 36524, by omega, by omega, by omega, by omega⟩
    · exact ⟨dayOfCycle / 36524, dayOfCycle % 36524, by omega, by omega, by omega, by omega⟩
  have whole : cycle * daysPerCycle + dayOfCycle - epochOffset = number := by omega
  by_cases final : inCentury % 1461 = 1460
  · refine ⟨⟨cycle, century, inCentury / 1461, 3, 365, century3, by omega, by omega, by omega,
      by omega⟩, ?_⟩
    rw [← whole, same]
    unfold Place.number Place.dayOfCycle
    simp only
    omega
  · refine ⟨⟨cycle, century, inCentury / 1461, inCentury % 1461 / 365, inCentury % 1461 % 365,
      century3, by omega, by omega, by omega, by omega⟩, ?_⟩
    rw [← whole, same]
    unfold Place.number Place.dayOfCycle
    simp only
    omega

theorem ofNumber_place (place : Place) : ofNumber place.number = place.date := by
  obtain ⟨first, last⟩ := place.dayOfCycle_bounds
  have whole : (place.number + epochOffset) / daysPerCycle = place.cycle := by
    unfold Place.number daysPerCycle at *
    omega
  have ofCycle : place.number + epochOffset - place.cycle * daysPerCycle = place.dayOfCycle := by
    unfold Place.number
    omega
  unfold ofNumber
  simp only [whole, ofCycle, place.yearOfCycle_eq, place.dayOfYear_eq]
  rfl

theorem Place.isLeapYear_iff (place : Place) :
    isLeapYear (place.year + place.cycle * 400 + 1) = true ↔
      place.rest = 3 ∧ (place.quad = 24 → place.century = 3) := by
  obtain ⟨cycle, century, quad, rest, day, century3, quad24, rest3, day365, leap⟩ := place
  unfold isLeapYear year
  simp only [Bool.and_eq_true, Bool.or_eq_true, beq_iff_eq, bne_iff_ne]
  omega

theorem Place.month_bounds (place : Place) : 0 ≤ place.month ∧ place.month ≤ 11 := by
  have inYear := place.dayBounds
  unfold month
  omega

theorem Place.valid_date (place : Place) : place.date.Valid := by
  have leapYear := place.isLeapYear_iff
  have inYear := place.dayBounds
  have leap := place.leapDay
  have months := place.month_bounds
  unfold date Valid daysInMonth dayOfMonth
  split
  · simp only
    unfold month at *
    split <;> omega
  · simp only
    by_cases february : place.month = 11
    · have isFebruary : place.month - 9 = 2 := by omega
      rw [if_pos isFebruary]
      unfold month at *
      by_cases final : place.day = 365
      · rw [if_pos (leapYear.mpr (leap final))]
        omega
      · split <;> omega
    · have isJanuary : place.month - 9 = 1 := by omega
      rw [isJanuary]
      unfold month at *
      simp only [Int.reduceEq, if_false, false_or]
      omega

theorem Place.number_date (place : Place) : place.date.number = place.number := by
  have first : 0 ≤ place.year ∧ place.year < 400 := by
    have ofCentury := place.centuryBounds
    have ofQuad := place.quadBounds
    have ofRest := place.restBounds
    unfold year
    omega
  have months := place.month_bounds
  have whole : (place.year + place.cycle * 400) / 400 = place.cycle := by omega
  have ofCycle : place.year + place.cycle * 400 - place.cycle * 400 = place.year := by omega
  have leapDays := place.dayOfYear_eq
  unfold date
  split
  · have later : ¬ place.month + 3 ≤ 2 := by omega
    have back : place.month + 3 - 3 = place.month := by omega
    unfold Date.number
    simp only [if_neg later, whole, ofCycle, back]
    unfold Place.number dayOfMonth
    omega
  · have early : place.month - 9 ≤ 2 := by omega
    have back : place.month - 9 + 9 = place.month := by omega
    have before : place.year + place.cycle * 400 + 1 - 1 = place.year + place.cycle * 400 := by
      omega
    unfold Date.number
    simp only [if_pos early, before, whole, ofCycle, back]
    unfold Place.number dayOfMonth
    omega

theorem valid_ofNumber (number : Int) : (ofNumber number).Valid := by
  obtain ⟨place, rfl⟩ := exists_place number
  rw [ofNumber_place]
  exact place.valid_date

theorem number_ofNumber (number : Int) : (ofNumber number).number = number := by
  obtain ⟨place, rfl⟩ := exists_place number
  rw [ofNumber_place]
  exact place.number_date

end Date

end ClusterDiscovery.Time

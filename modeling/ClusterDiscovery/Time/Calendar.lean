/-
The proleptic Gregorian calendar on day numbers.

Day zero is the first of January 1970, and days before it have negative numbers. The
year is taken to begin in March, so a leap day is the last day of its year and the
lengths of the months follow one linear rule. Cycles of four hundred years repeat
exactly. No table of years is involved, and the functions are defined for every year.
-/

namespace ClusterDiscovery.Time

structure Date where
  year : Int
  month : Int
  day : Int
  deriving DecidableEq, Repr

def isLeapYear (year : Int) : Bool :=
  year % 4 == 0 && (year % 100 != 0 || year % 400 == 0)

def daysInMonth (year month : Int) : Int :=
  if month = 2 then (if isLeapYear year then 29 else 28)
  else if month = 4 ∨ month = 6 ∨ month = 9 ∨ month = 11 then 30
  else 31

def Date.Valid (date : Date) : Prop :=
  1 ≤ date.month ∧ date.month ≤ 12 ∧ 1 ≤ date.day ∧
    date.day ≤ daysInMonth date.year date.month

instance (date : Date) : Decidable date.Valid :=
  inferInstanceAs (Decidable (_ ∧ _ ∧ _ ∧ _))

def daysPerCycle : Int := 146097

/-- Days from the first of March of year zero to the first of January 1970. -/
def epochOffset : Int := 719468

def Date.number (date : Date) : Int :=
  let year := if date.month ≤ 2 then date.year - 1 else date.year
  let cycle := year / 400
  let yearOfCycle := year - cycle * 400
  let month := if date.month ≤ 2 then date.month + 9 else date.month - 3
  let dayOfYear := (153 * month + 2) / 5 + date.day - 1
  let dayOfCycle := yearOfCycle * 365 + yearOfCycle / 4 - yearOfCycle / 100 + dayOfYear
  cycle * daysPerCycle + dayOfCycle - epochOffset

def Date.ofNumber (number : Int) : Date :=
  let shifted := number + epochOffset
  let cycle := shifted / daysPerCycle
  let dayOfCycle := shifted - cycle * daysPerCycle
  let yearOfCycle :=
    (dayOfCycle - dayOfCycle / 1460 + dayOfCycle / 36524 - dayOfCycle / 146096) / 365
  let dayOfYear := dayOfCycle - (365 * yearOfCycle + yearOfCycle / 4 - yearOfCycle / 100)
  let month := (5 * dayOfYear + 2) / 153
  let day := dayOfYear - (153 * month + 2) / 5 + 1
  let year := yearOfCycle + cycle * 400
  if month < 10 then ⟨year, month + 3, day⟩ else ⟨year + 1, month - 9, day⟩

example : (Date.mk 1970 1 1).number = 0 := by decide

example : Date.ofNumber 11016 = ⟨2000, 2, 29⟩ := by decide

example : Date.ofNumber (-719529) = ⟨-1, 12, 31⟩ := by decide

end ClusterDiscovery.Time

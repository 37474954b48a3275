/-
Instants of universal time.

An instant is a whole second counted from the start of 1970 and a part of a second in
nanoseconds. A leap second is counted with the second before it, the last of its
minute: its nanoseconds run from one to two thousand million. Instants are ordered by
second and then by nanosecond, so a leap second lies between its neighbours. The years
are bounded, and every operation that could leave the bounds says so in its result.
-/

import ClusterDiscovery.Time.Calendar

namespace ClusterDiscovery.Time

def secondsPerDay : Int := 86400

def nanosPerSecond : Nat := 1000000000

def firstYear : Int := -262143

def lastYear : Int := 262142

def firstDay : Int := -96465292

def lastDay : Int := 95026236

example : (Date.mk firstYear 1 1).number = firstDay := by decide

example : (Date.mk lastYear 12 31).number = lastDay := by decide

def InRange (day : Int) : Prop := firstDay ≤ day ∧ day ≤ lastDay

instance (day : Int) : Decidable (InRange day) := inferInstanceAs (Decidable (_ ∧ _))

/-- Nanoseconds that a second can have: a leap second only ends a minute. -/
def NanosFit (second : Int) (nano : Nat) : Prop :=
  nano < 2 * nanosPerSecond ∧ (nanosPerSecond ≤ nano → second % 60 = 59)

instance (second : Int) (nano : Nat) : Decidable (NanosFit second nano) :=
  inferInstanceAs (Decidable (_ ∧ (_ → _)))

structure Instant where
  /-- Whole seconds from the start of 1970, rounded down. -/
  second : Int
  /-- Nanoseconds; a thousand million and more in a leap second. -/
  nano : Nat
  inRange : InRange (second / secondsPerDay)
  nanosFit : NanosFit second nano
  deriving DecidableEq

namespace Instant

/-- Number of the day on which an instant lies; a leap second lies on its own day. -/
def day (t : Instant) : Int := t.second / secondsPerDay

def date (t : Instant) : Date := Date.ofNumber t.day

def secondOfDay (t : Instant) : Int := t.second % secondsPerDay

def isLeap (t : Instant) : Bool := nanosPerSecond ≤ t.nano

def le (s t : Instant) : Prop := s.second < t.second ∨ s.second = t.second ∧ s.nano ≤ t.nano

instance : LE Instant := ⟨le⟩

instance (s t : Instant) : Decidable (s ≤ t) := inferInstanceAs (Decidable (_ ∨ _ ∧ _))

def midnight? (day : Int) : Option Instant :=
  if h : InRange day then
    some ⟨day * secondsPerDay, 0, by
      rwa [Int.mul_ediv_cancel _ (by decide : secondsPerDay ≠ 0)],
      ⟨by decide, fun leap => absurd leap (by decide)⟩⟩
  else none

def ofParts? (second : Int) (nano : Nat) : Option Instant :=
  if h : InRange (second / secondsPerDay) ∧ NanosFit second nano then
    some ⟨second, nano, h.1, h.2⟩
  else none

theorem le_trans {s t u : Instant} (h₁ : s ≤ t) (h₂ : t ≤ u) : s ≤ u := by
  rcases h₁ with h₁ | ⟨h₁, h₁'⟩ <;> rcases h₂ with h₂ | ⟨h₂, h₂'⟩
  · exact Or.inl (Int.lt_trans h₁ h₂)
  · exact Or.inl (h₂ ▸ h₁)
  · exact Or.inl (h₁ ▸ h₂)
  · exact Or.inr ⟨h₁.trans h₂, Nat.le_trans h₁' h₂'⟩

theorem ofParts?_self (t : Instant) : ofParts? t.second t.nano = some t := by
  simp only [ofParts?, t.inRange, t.nanosFit, and_self, dite_true]

end Instant

end ClusterDiscovery.Time

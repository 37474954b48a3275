/-
Shortest decimals of binary numbers.

Of the decimals whose nearest binary number is the given one, those with the fewest digits
are looked for, and of them the nearest one, a tie going to the even one. On each grid of
decimals only the two next to the number have to be tried, and 17 digits always suffice.
-/

import ClusterDiscovery.Binary64

namespace ClusterDiscovery.Binary64

structure Decimal where
  digits : Nat
  power : Int
  deriving DecidableEq, Repr

def mostDigits : Nat := 17

def unitsOf (numerator denominator : Nat) (power : Int) : Nat × Nat :=
  if 0 ≤ power then (numerator, denominator * Nat.pow 10 power.toNat)
  else (numerator * Nat.pow 10 (-power).toNat, denominator)

def powerAbove (numerator denominator : Nat) : Int :=
  let guess := (digitCount numerator : Int) - digitCount denominator
  let units := unitsOf numerator denominator guess
  if units.1 < units.2 then guess else guess + 1

def neighbours (numerator denominator : Nat) (power : Int) : List Decimal :=
  let units := unitsOf numerator denominator power
  let below := units.1 / units.2
  let nearer := roundHalfEven units.1 units.2
  [⟨nearer, power⟩, ⟨if nearer = below then below + 1 else below, power⟩]

def Decimal.trim (decimal : Decimal) : Decimal :=
  if decimal.digits % 10 = 0 then ⟨decimal.digits / 10, decimal.power + 1⟩ else decimal

/-- The shortest decimal of a finite number that is not negative. -/
def shortest (mantissa : Nat) (exponent : Int) : Decimal :=
  if mantissa = 0 then ⟨0, 0⟩
  else
    let fraction := scale mantissa 1 (-exponent)
    let above := powerAbove fraction.1 fraction.2
    let readsBack (decimal : Decimal) : Bool :=
      ofDecimal false decimal.digits decimal.power == ofScaled false mantissa exponent
    let found := (List.range' 1 mostDigits).findSome? fun (count : Nat) =>
      (neighbours fraction.1 fraction.2 (above - count)).find? readsBack
    (found.getD ⟨0, 0⟩).trim

example : shortest 7205759403792794 (-56) = ⟨1, -1⟩ := by decide +kernel

example : shortest 1 (-1074) = ⟨5, -324⟩ := by decide +kernel

example : shortest 9007199254740991 0 = ⟨9007199254740991, 0⟩ := by decide +kernel

end ClusterDiscovery.Binary64

/-
Binary floating-point numbers of 64 bits.

A finite number is a mantissa times a power of two. Every operation computes its exact
result and rounds it once, to the nearest number with 53 bits, a tie going to the even one.
The least exponent and the overflow to infinity are those of the format, and what an
operation gives has the one mantissa and exponent that its value has there.
-/

namespace ClusterDiscovery

inductive Binary64 where
  | finite (negative : Bool) (mantissa : Nat) (exponent : Int)
  | infinite (negative : Bool)
  | nan
  deriving DecidableEq, Repr

def roundHalfEven (numerator denominator : Nat) : Nat :=
  let whole := numerator / denominator
  let rest := numerator % denominator
  if 2 * rest < denominator then whole
  else if denominator < 2 * rest then whole + 1
  else if whole % 2 = 0 then whole
  else whole + 1

namespace Binary64

def leastExponent : Int := -1074

/-- Powers of two that are not below this overflow. -/
def overflowExponent : Int := 1024

def scale (numerator denominator : Nat) (exponent : Int) : Nat × Nat :=
  if 0 ≤ exponent then (numerator, denominator * Nat.pow 2 exponent.toNat)
  else (numerator * Nat.pow 2 (-exponent).toNat, denominator)

def exponentFor (numerator denominator : Nat) : Int :=
  let guess := (Nat.log2 numerator : Int) - Nat.log2 denominator - 52
  let scaled := scale numerator denominator guess
  let exponent := if scaled.1 / scaled.2 < 4503599627370496 then guess - 1 else guess
  max exponent leastExponent

def overflows (mantissa : Nat) (exponent : Int) : Bool :=
  mantissa != 0 && overflowExponent ≤ (Nat.log2 mantissa : Int) + exponent

/-- The number nearest to a fraction. A mantissa that is rounded up to 54 bits is halved. -/
def ofRatio (negative : Bool) (numerator denominator : Nat) : Binary64 :=
  if numerator = 0 then .finite negative 0 0
  else
    let exponent := exponentFor numerator denominator
    let scaled := scale numerator denominator exponent
    let mantissa := roundHalfEven scaled.1 scaled.2
    if mantissa = 0 then .finite negative 0 0
    else if overflows mantissa exponent then .infinite negative
    else if mantissa = 9007199254740992 then .finite negative 4503599627370496 (exponent + 1)
    else .finite negative mantissa exponent

def ofScaled (negative : Bool) (mantissa : Nat) (exponent : Int) : Binary64 :=
  if 0 ≤ exponent then ofRatio negative (mantissa * Nat.pow 2 exponent.toNat) 1
  else ofRatio negative mantissa (Nat.pow 2 (-exponent).toNat)

def ofNat (n : Nat) : Binary64 := ofRatio false n 1

def digitCount (n : Nat) : Nat := (Nat.toDigits 10 n).length

def ofDecimal (negative : Bool) (coefficient : Nat) (exponent : Int) : Binary64 :=
  if coefficient = 0 then .finite negative 0 0
  else if 400 < (digitCount coefficient : Int) + exponent then .infinite negative
  else if (digitCount coefficient : Int) + exponent < -400 then .finite negative 0 0
  else if 0 ≤ exponent then ofRatio negative (coefficient * Nat.pow 10 exponent.toNat) 1
  else ofRatio negative coefficient (Nat.pow 10 (-exponent).toNat)

def mul : Binary64 → Binary64 → Binary64
  | .nan, _ => .nan
  | _, .nan => .nan
  | .infinite a, .infinite b => .infinite (a != b)
  | .infinite a, .finite b mantissa _ => if mantissa = 0 then .nan else .infinite (a != b)
  | .finite a mantissa _, .infinite b => if mantissa = 0 then .nan else .infinite (a != b)
  | .finite a m e, .finite b n f => ofScaled (a != b) (m * n) (e + f)

def div : Binary64 → Binary64 → Binary64
  | .finite a m e, .finite b n f =>
      let exponent := e - f
      if 0 ≤ exponent then ofRatio (a != b) (m * Nat.pow 2 exponent.toNat) n
      else ofRatio (a != b) m (n * Nat.pow 2 (-exponent).toNat)
  | .infinite a, .finite b _ _ => .infinite (a != b)
  | _, _ => .nan

def addMagnitudes : Binary64 → Binary64 → Binary64
  | .finite _ m e, .finite _ n f =>
      let low := min e f
      ofScaled false (m * Nat.pow 2 (e - low).toNat + n * Nat.pow 2 (f - low).toNat) low
  | .nan, _ => .nan
  | _, .nan => .nan
  | _, _ => .infinite false

def greatestPower : Nat := 308

def leadingDigits : Nat → Nat → Nat → Nat × Nat
  | 0, value, dropped => (value, dropped)
  | fuel + 1, value, dropped =>
      if value < UInt64.size then (value, dropped)
      else leadingDigits fuel (value / 10) (dropped + 1)

/-- The absolute value of a decimal number as it is read: the leading digits are made a
number, which is multiplied with or divided by a power of ten. A small power is reached in
several divisions, and three of them leave nothing of any 64 bits. -/
def scaleDigits : Nat → Binary64 → Int → Binary64
  | fuel, number, exponent =>
      let power := ofDecimal false 1 exponent.natAbs
      if exponent.natAbs ≤ greatestPower then
        if 0 ≤ exponent then number.mul power else number.div power
      else if number == .finite false 0 0 then number
      else if 0 ≤ exponent then .infinite false
      else
        match fuel with
        | 0 => .finite false 0 0
        | fuel + 1 =>
            scaleDigits fuel (number.div (ofDecimal false 1 greatestPower))
              (exponent + greatestPower)

/-- The number that is read from a coefficient and a power of ten. It can miss the nearest
one, as every step rounds. -/
def ofDigits (negative : Bool) (coefficient : Nat) (exponent : Int) : Binary64 :=
  let (leading, dropped) := leadingDigits (digitCount coefficient) coefficient 0
  match scaleDigits 3 (ofNat leading) (exponent + dropped) with
  | .finite _ mantissa exponent => .finite negative mantissa exponent
  | .infinite _ => .infinite negative
  | .nan => .nan

/-- A power with a natural exponent, by repeated squaring from the lowest bit on. -/
def power (base : Binary64) (n : Nat) : Binary64 :=
  go n base (ofNat 1) n
where
  go : Nat → Binary64 → Binary64 → Nat → Binary64
    | 0, _, result, _ => result
    | fuel + 1, square, result, bits =>
        let result := if bits % 2 = 1 then result.mul square else result
        if bits / 2 = 0 then result else go fuel (square.mul square) result (bits / 2)

def signedAt (negative : Bool) (mantissa : Nat) (exponent low : Int) : Int :=
  let magnitude := (mantissa * Nat.pow 2 (exponent - low).toNat : Nat)
  if negative then -(magnitude : Int) else magnitude

def lt : Binary64 → Binary64 → Bool
  | .nan, _ => false
  | _, .nan => false
  | .infinite a, .infinite b => a && !b
  | .infinite a, .finite _ _ _ => a
  | .finite _ _ _, .infinite b => !b
  | .finite a m e, .finite b n f =>
      let low := min e f
      signedAt a m e low < signedAt b n f low

/-- The lesser of two numbers; what is no number never counts. -/
def least : Binary64 → Binary64 → Binary64
  | .nan, b => b
  | a, .nan => a
  | a, b => if lt b a then b else a

example : ofDecimal false 1 (-1) = .finite false 7205759403792794 (-56) := by decide +kernel

example : ofDigits false 1 (-1) = .finite false 7205759403792794 (-56) := by decide +kernel

example : (ofNat 3).power 4 = .finite false 5699868278390784 (-46) := by decide +kernel

end Binary64

end ClusterDiscovery

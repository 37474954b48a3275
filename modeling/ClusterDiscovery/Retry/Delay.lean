/-
Delays between attempts.

The delay grows by a factor from attempt to attempt, up to a cap. It is then varied by a
random factor, which can take it beyond the cap. Both are computed in floating point, and
are undefined where the result is negative or leaves what a duration can hold.
-/

import ClusterDiscovery.Binary64

namespace ClusterDiscovery.Retry

structure Duration where
  secs : Nat
  nanos : Nat
  deriving DecidableEq, Repr

def nanosPerSecond : Nat := 1000000000

def Duration.toSeconds (duration : Duration) : Binary64 :=
  (Binary64.ofNat duration.secs).addMagnitudes
    (Binary64.ofRatio false duration.nanos nanosPerSecond)

def Duration.ofNanos? (nanos : Nat) : Option Duration :=
  if nanos / nanosPerSecond < UInt64.size then
    some ⟨nanos / nanosPerSecond, nanos % nanosPerSecond⟩
  else none

def Duration.ofParts? (secs nanos : Nat) : Option Duration :=
  ofNanos? (secs * nanosPerSecond + nanos)

/-- The duration nearest to a number of seconds, a tie to the even nanosecond; nothing for
a negative or too great one. -/
def Duration.ofSeconds? : Binary64 → Option Duration
  | .finite negative mantissa exponent =>
      if negative && mantissa != 0 then none
      else
        let scaled := Binary64.scale (mantissa * nanosPerSecond) 1 (-exponent)
        ofNanos? (roundHalfEven scaled.1 scaled.2)
  | _ => none

structure Policy where
  /-- Greatest number of attempts; zero for no bound. -/
  maxAttempts : Nat
  initialDelay : Duration
  maxDelay : Duration
  multiplier : Binary64
  deriving DecidableEq, Repr

def Policy.standard : Policy where
  maxAttempts := 0
  initialDelay := ⟨0, 250000000⟩
  maxDelay := ⟨30, 0⟩
  multiplier := Binary64.ofNat 2

/-- The delay after a failed attempt, counted from one, before it is varied at random. -/
def Policy.delay? (policy : Policy) (attempt : Nat) : Option Duration :=
  let growth := policy.multiplier.power (min (attempt - 1) 63)
  Duration.ofSeconds?
    (Binary64.least (policy.initialDelay.toSeconds.mul growth) policy.maxDelay.toSeconds)

/-- The random factors of the attempts: any from one half on and below three halves. -/
structure Variation where
  factor : Nat → Binary64
  atLeastHalf : ∀ attempt, (factor attempt).lt (Binary64.ofRatio false 1 2) = false
  belowThreeHalves : ∀ attempt, (factor attempt).lt (Binary64.ofRatio false 3 2) = true

def Variation.even : Variation where
  factor attempt := Binary64.ofRatio false (8 + 5 * attempt % 16) 16
  atLeastHalf attempt :=
    (by decide +kernel : ∀ part < 16,
        (Binary64.ofRatio false (8 + part) 16).lt (Binary64.ofRatio false 1 2) = false)
      (5 * attempt % 16) (Nat.mod_lt _ (by decide))
  belowThreeHalves attempt :=
    (by decide +kernel : ∀ part < 16,
        (Binary64.ofRatio false (8 + part) 16).lt (Binary64.ofRatio false 3 2) = true)
      (5 * attempt % 16) (Nat.mod_lt _ (by decide))

/-- The number that an attempt is given: attempts are counted in 32 bits. -/
def counted (attempt : Nat) : Nat := attempt % UInt32.size

def Policy.pause? (policy : Policy) (variation : Variation) (attempt : Nat) : Option Duration :=
  (policy.delay? (counted attempt)).bind fun delay =>
    Duration.ofSeconds? (delay.toSeconds.mul (variation.factor attempt))

def Policy.exhausted (policy : Policy) (attempt : Nat) : Bool :=
  0 < policy.maxAttempts && policy.maxAttempts ≤ attempt

end ClusterDiscovery.Retry

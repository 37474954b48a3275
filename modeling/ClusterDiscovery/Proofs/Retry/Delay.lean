/-
Delays that can be waited for.

A delay is capped before it is varied, and the variation at most doubles it. So if the cap leaves
room enough, every delay that is defined is still defined when it is varied. Without that room a
delay may be defined that is too long when it is varied.
-/

import ClusterDiscovery.Proofs.Binary64.Bound
import ClusterDiscovery.Retry.Delay

namespace ClusterDiscovery.Retry

def Duration.inNanos (duration : Duration) : Nat := duration.secs * nanosPerSecond + duration.nanos

variable {duration : Duration} {x cap : Binary64} {k : Nat}

theorem Duration.ofNanos?_eq_some_iff {nanos : Nat} : ofNanos? nanos = some duration ↔
    nanos / nanosPerSecond < UInt64.size ∧
      duration = ⟨nanos / nanosPerSecond, nanos % nanosPerSecond⟩ := by
  unfold ofNanos?
  split_ifs with fits
  · simp [fits, eq_comm]
  · simp [fits]

def roundedNanos (mantissa : Nat) (exponent : Int) : Nat :=
  let scaled := Binary64.scale (mantissa * nanosPerSecond) 1 (-exponent)
  roundHalfEven scaled.1 scaled.2

theorem Duration.ofSeconds?_finite (negative : Bool) (mantissa : Nat) (exponent : Int) :
    ofSeconds? (.finite negative mantissa exponent) =
      if negative && mantissa != 0 then none else ofNanos? (roundedNanos mantissa exponent) := rfl

theorem roundedNanos_le {mantissa : Nat} {exponent : Int}
    (fits : (mantissa : ℚ) * 2 ^ exponent ≤ 2 ^ k) :
    roundedNanos mantissa exponent ≤ 2 ^ k * nanosPerSecond := by
  refine Binary64.round_scale_le one_pos ?_
  rw [Nat.cast_one, div_one, zpow_neg, ← div_eq_mul_inv,
    le_div_iff₀ (Binary64.two_zpow_pos exponent), Nat.cast_mul, mul_right_comm, Nat.cast_mul]
  have bound : ((2 ^ k : Nat) : ℚ) = 2 ^ k := by norm_num
  rw [bound]
  exact mul_le_mul_of_nonneg_right fits (Nat.cast_nonneg _)

theorem Duration.inNanos_of_ofSeconds? {mantissa : Nat} {exponent : Int} {negative : Bool}
    (defined : ofSeconds? (.finite negative mantissa exponent) = some duration)
    (fits : (mantissa : ℚ) * 2 ^ exponent ≤ 2 ^ k) : duration.inNanos ≤ 2 ^ k * nanosPerSecond := by
  rw [ofSeconds?_finite] at defined
  split at defined
  · cases defined
  · obtain ⟨_room, rfl⟩ := ofNanos?_eq_some_iff.mp defined
    unfold inNanos
    simp only
    rw [Nat.div_add_mod']
    exact roundedNanos_le fits

theorem Duration.isSome_ofSeconds? (small : x.AtMost (2 ^ k)) (room : k < 64) :
    (ofSeconds? x).isSome = true := by
  obtain ⟨mantissa, exponent, rfl, fits⟩ := small
  have bound : 2 ^ k ≤ 2 ^ 63 := Nat.pow_le_pow_right (by decide) (by omega)
  have nanos := (roundedNanos_le fits).trans (Nat.mul_le_mul_right _ bound)
  have secs : roundedNanos mantissa exponent / nanosPerSecond ≤ 2 ^ 63 :=
    Nat.div_le_of_le_mul (by rwa [Nat.mul_comm])
  rw [ofSeconds?_finite, Bool.false_and, if_neg Bool.false_ne_true]
  unfold ofNanos?
  rw [if_pos (lt_of_le_of_lt secs (by decide))]
  rfl

theorem Duration.toSeconds_atMost (short : duration.inNanos ≤ 2 ^ k * nanosPerSecond)
    (finite : k + 1 < 1024) : duration.toSeconds.AtMost (2 ^ (k + 1)) := by
  unfold inNanos at short
  have positive : 0 < nanosPerSecond := by decide
  have secs : duration.secs ≤ 2 ^ k := Nat.le_of_mul_le_mul_right (by omega) positive
  have nanos : ((duration.nanos : ℚ)) / nanosPerSecond ≤ 2 ^ k := by
    rw [div_le_iff₀ (by exact_mod_cast positive)]
    exact_mod_cast (show duration.nanos ≤ 2 ^ k * nanosPerSecond by omega)
  exact (Binary64.ofNat_atMost (by omega) secs).addMagnitudes
    (Binary64.ofRatio_atMost positive (by omega) nanos) finite

/-- A duration that was capped does not exceed the cap. -/
theorem Duration.inNanos_of_capped (bounded : cap.AtMost (2 ^ k))
    (defined : ofSeconds? (Binary64.least x cap) = some duration) :
    duration.inNanos ≤ 2 ^ k * nanosPerSecond := by
  obtain ⟨n, f, rfl, fits⟩ := bounded
  cases x with
  | nan => exact inNanos_of_ofSeconds? defined fits
  | infinite negative =>
      cases negative with
      | false => exact inNanos_of_ofSeconds? defined fits
      | true => cases defined
  | finite negative mantissa exponent =>
      unfold Binary64.least at defined
      simp only at defined
      split at defined
      · exact inNanos_of_ofSeconds? defined fits
      · rename_i notBelow
        refine inNanos_of_ofSeconds? defined ?_
        cases negative with
        | false =>
            rw [Binary64.lt_finite_iff, not_lt] at notBelow
            exact notBelow.trans fits
        | true =>
            have zero : mantissa = 0 := by
              by_contra nonzero
              rw [ofSeconds?_finite, Bool.true_and, if_pos (bne_iff_ne.mpr nonzero)] at defined
              cases defined
            simp [zero]

theorem Variation.factor_atMost (variation : Variation) (attempt : Nat) :
    (variation.factor attempt).AtMost (2 ^ 1) := by
  have atLeastHalf := variation.atLeastHalf attempt
  have belowThreeHalves := variation.belowThreeHalves attempt
  have half : Binary64.ofRatio false 1 2 = .finite false 4503599627370496 (-53) := by decide +kernel
  have threeHalves : Binary64.ofRatio false 3 2 = .finite false 6755399441055744 (-52) := by
    decide +kernel
  rw [half] at atLeastHalf
  rw [threeHalves] at belowThreeHalves
  cases same : variation.factor attempt with
  | nan =>
      rw [same] at belowThreeHalves
      cases belowThreeHalves
  | infinite negative =>
      rw [same] at atLeastHalf belowThreeHalves
      cases negative with
      | false => cases belowThreeHalves
      | true => cases atLeastHalf
  | finite negative mantissa exponent =>
      rw [same] at atLeastHalf belowThreeHalves
      cases negative with
      | true =>
          rw [Binary64.lt_of_negative (by decide)] at atLeastHalf
          cases atLeastHalf
      | false =>
          refine ⟨mantissa, exponent, rfl, ?_⟩
          refine (Binary64.lt_finite_iff.mp belowThreeHalves).le.trans ?_
          norm_num

/-- Where no delay exceeds so much, the variation of a delay is defined if the delay is. -/
def Policy.Moderate (policy : Policy) : Prop := policy.maxDelay.inNanos ≤ 2 ^ 60 * nanosPerSecond

theorem Policy.pause?_isSome {policy : Policy} {variation : Variation} {attempt : Nat}
    (moderate : policy.Moderate) (defined : (policy.delay? (counted attempt)).isSome = true) :
    (policy.pause? variation attempt).isSome = true := by
  obtain ⟨delay, known⟩ := Option.isSome_iff_exists.mp defined
  have cap : policy.maxDelay.toSeconds.AtMost (2 ^ 61) :=
    Duration.toSeconds_atMost moderate (by decide)
  have capped : delay.inNanos ≤ 2 ^ 61 * nanosPerSecond := Duration.inNanos_of_capped cap known
  have seconds : delay.toSeconds.AtMost (2 ^ 62) := Duration.toSeconds_atMost capped (by decide)
  have varied := seconds.mul (variation.factor_atMost attempt) (by decide)
  unfold pause?
  rw [known, Option.bind_some]
  exact Duration.isSome_ofSeconds? varied (by decide)

end ClusterDiscovery.Retry

/-
Powers of two that bound binary numbers.

Rounding goes to the nearest number, and a power of two is a number. So what does not exceed a
power of two exactly does not exceed it rounded, unless the power overflows. Sums and products of
bounded numbers are bounded accordingly, and are no infinities.
-/

import ClusterDiscovery.Binary64
import Mathlib.Algebra.Order.Field.Power
import Mathlib.Data.Rat.Cast.Order
import Mathlib.Tactic.NormNum
import Mathlib.Tactic.Positivity
import Mathlib.Tactic.Ring

namespace ClusterDiscovery

theorem roundHalfEven_le {numerator denominator bound : Nat} (positive : 0 < denominator)
    (fits : numerator ≤ bound * denominator) : roundHalfEven numerator denominator ≤ bound := by
  have whole : numerator / denominator ≤ bound := Nat.div_le_of_le_mul (by rwa [Nat.mul_comm])
  rcases Nat.lt_or_eq_of_le whole with below | exact
  · unfold roundHalfEven
    simp only
    split_ifs
    all_goals omega
  · have parts := Nat.div_add_mod numerator denominator
    rw [exact, Nat.mul_comm] at parts
    have rest : numerator % denominator = 0 := by omega
    unfold roundHalfEven
    simp only
    rw [rest, if_pos (by omega)]
    exact whole

namespace Binary64

variable {x y : Binary64} {negative : Bool} {numerator denominator mantissa n : Nat}
  {exponent : Int} {bound : ℚ} {k l : Nat}

/-- A number is finite, not negative, and does not exceed a bound. -/
def AtMost (x : Binary64) (bound : ℚ) : Prop :=
  ∃ mantissa exponent, x = .finite false mantissa exponent ∧
    (mantissa : ℚ) * 2 ^ exponent ≤ bound

theorem two_zpow_pos (exponent : Int) : (0 : ℚ) < 2 ^ exponent := zpow_pos two_pos exponent

theorem natCast_pow_toNat (nonnegative : 0 ≤ exponent) :
    ((Nat.pow 2 exponent.toNat : Nat) : ℚ) = 2 ^ exponent := by
  obtain ⟨power, rfl⟩ := Int.eq_ofNat_of_zero_le nonnegative
  simp

theorem scale_positive (numerator : Nat) (exponent : Int) (positive : 0 < denominator) :
    0 < (scale numerator denominator exponent).2 := by
  unfold scale
  split
  · exact Nat.mul_pos positive (Nat.two_pow_pos _)
  · exact positive

theorem scale_ratio (numerator denominator : Nat) (exponent : Int) :
    ((scale numerator denominator exponent).1 : ℚ) / (scale numerator denominator exponent).2 =
      numerator / denominator / 2 ^ exponent := by
  unfold scale
  split
  · rename_i nonnegative
    rw [Nat.cast_mul, natCast_pow_toNat nonnegative, div_div]
  · rename_i negative
    rw [Nat.cast_mul, natCast_pow_toNat (by omega), zpow_neg]
    ring

/-- A scaled fraction is rounded to no more than a whole number that it does not exceed. -/
theorem round_scale_le (positive : 0 < denominator)
    (fits : (numerator : ℚ) / denominator ≤ n * 2 ^ exponent) :
    roundHalfEven (scale numerator denominator exponent).1
      (scale numerator denominator exponent).2 ≤ n := by
  have below := scale_positive numerator exponent positive
  refine roundHalfEven_le below ?_
  have ratio := (div_le_iff₀ (two_zpow_pos exponent)).mpr fits
  rw [← scale_ratio, div_le_iff₀ (by exact_mod_cast below)] at ratio
  exact_mod_cast ratio

/-- The exponent of a fraction leaves room for a mantissa of 53 bits below a bound. -/
theorem exponentFor_le (nonzero : numerator ≠ 0) (fits : numerator ≤ 2 ^ k * denominator) :
    exponentFor numerator denominator ≤ k := by
  have less : numerator < 2 ^ (Nat.log2 denominator + 1 + k) := by
    rw [Nat.pow_add, Nat.mul_comm]
    exact lt_of_le_of_lt fits (Nat.mul_lt_mul_of_pos_left Nat.lt_log2_self (Nat.two_pow_pos k))
  have logs := (Nat.log2_lt nonzero).mpr less
  unfold exponentFor leastExponent
  simp only
  rw [max_le_iff]
  constructor
  · split_ifs
    all_goals omega
  · omega

theorem two_pow_eq (small : exponent ≤ k) :
    (2 : ℚ) ^ k = (2 ^ (k - exponent).toNat : Nat) * 2 ^ exponent := by
  have power : ((2 ^ (k - exponent).toNat : Nat) : ℚ) = 2 ^ (k - exponent) :=
    natCast_pow_toNat (by omega)
  rw [power, ← zpow_add₀ two_ne_zero, sub_add_cancel, zpow_natCast]

theorem not_overflows (finite : k < 1024) (small : exponent ≤ k)
    (fits : mantissa ≤ 2 ^ (k - exponent).toNat) : overflows mantissa exponent = false := by
  unfold overflows overflowExponent
  by_cases zero : mantissa = 0
  · simp [zero]
  · have less : mantissa < 2 ^ ((k - exponent).toNat + 1) :=
      lt_of_le_of_lt fits (Nat.pow_lt_pow_right (by decide) (Nat.lt_succ_self _))
    have log := (Nat.log2_lt zero).mpr less
    simp only [Bool.and_eq_false_iff, decide_eq_false_iff_not]
    right
    omega

theorem ofRatio_atMost (positive : 0 < denominator) (finite : k < 1024)
    (fits : (numerator : ℚ) / denominator ≤ 2 ^ k) :
    (ofRatio false numerator denominator).AtMost (2 ^ k) := by
  have zero : (Binary64.finite false 0 0).AtMost (2 ^ k) := ⟨0, 0, rfl, by simp⟩
  unfold ofRatio
  by_cases nothing : numerator = 0
  · rw [if_pos nothing]
    exact zero
  · rw [if_neg nothing]
    have product : numerator ≤ 2 ^ k * denominator := by
      rw [div_le_iff₀ (by exact_mod_cast positive)] at fits
      exact_mod_cast fits
    have small := exponentFor_le nothing product
    rw [two_pow_eq small] at fits
    have rounded := round_scale_le positive fits
    generalize exponentFor numerator denominator = exponent at small rounded
    simp only
    generalize roundHalfEven _ _ = mantissa at rounded
    have value : (mantissa : ℚ) * 2 ^ exponent ≤ 2 ^ k := by
      rw [two_pow_eq small]
      exact mul_le_mul_of_nonneg_right (by exact_mod_cast rounded) (two_zpow_pos _).le
    rw [not_overflows finite small rounded, if_neg Bool.false_ne_true]
    split_ifs with lost halved
    · exact zero
    · refine ⟨_, _, rfl, le_of_eq_of_le ?_ value⟩
      rw [halved, zpow_add₀ two_ne_zero]
      norm_num
      ring
    · exact ⟨_, _, rfl, value⟩

theorem ofScaled_atMost (finite : k < 1024) (fits : (mantissa : ℚ) * 2 ^ exponent ≤ 2 ^ k) :
    (ofScaled false mantissa exponent).AtMost (2 ^ k) := by
  unfold ofScaled
  split
  · rename_i nonnegative
    refine ofRatio_atMost one_pos finite ?_
    rwa [Nat.cast_mul, natCast_pow_toNat nonnegative, Nat.cast_one, div_one]
  · rename_i below
    refine ofRatio_atMost (Nat.two_pow_pos _) finite ?_
    rwa [natCast_pow_toNat (by omega), zpow_neg, div_inv_eq_mul]

theorem ofNat_atMost (finite : k < 1024) (fits : n ≤ 2 ^ k) : (ofNat n).AtMost (2 ^ k) := by
  refine ofRatio_atMost one_pos finite ?_
  rw [Nat.cast_one, div_one]
  exact_mod_cast fits

theorem AtMost.mul (first : x.AtMost (2 ^ k)) (second : y.AtMost (2 ^ l))
    (finite : k + l < 1024) : (x.mul y).AtMost (2 ^ (k + l)) := by
  obtain ⟨m, e, rfl, le⟩ := first
  obtain ⟨n, f, rfl, le'⟩ := second
  refine ofScaled_atMost finite ?_
  rw [Nat.cast_mul, zpow_add₀ two_ne_zero, mul_mul_mul_comm, pow_add]
  have nonnegative : (0 : ℚ) ≤ n * 2 ^ f := mul_nonneg n.cast_nonneg (two_zpow_pos f).le
  exact mul_le_mul le le' nonnegative (by positivity)

theorem AtMost.addMagnitudes (first : x.AtMost (2 ^ k)) (second : y.AtMost (2 ^ k))
    (finite : k + 1 < 1024) : (x.addMagnitudes y).AtMost (2 ^ (k + 1)) := by
  obtain ⟨m, e, rfl, le⟩ := first
  obtain ⟨n, f, rfl, le'⟩ := second
  refine ofScaled_atMost finite ?_
  rw [Nat.cast_add, Nat.cast_mul, Nat.cast_mul, natCast_pow_toNat (by omega),
    natCast_pow_toNat (by omega), add_mul, mul_assoc, mul_assoc, ← zpow_add₀ two_ne_zero,
    ← zpow_add₀ two_ne_zero, sub_add_cancel, sub_add_cancel, pow_succ, mul_two]
  exact add_le_add le le'

theorem cast_align {low : Int} (below : low ≤ exponent) :
    ((mantissa * Nat.pow 2 (exponent - low).toNat : Nat) : ℚ) * 2 ^ low =
      mantissa * 2 ^ exponent := by
  rw [Nat.cast_mul, natCast_pow_toNat (by omega), mul_assoc, ← zpow_add₀ two_ne_zero,
    sub_add_cancel]

theorem lt_finite_iff {m : Nat} {e : Int} : (finite false mantissa exponent).lt (finite false m e) =
    true ↔ (mantissa : ℚ) * 2 ^ exponent < m * 2 ^ e := by
  unfold lt signedAt
  simp only [Bool.false_eq_true, if_false, decide_eq_true_eq, Nat.cast_lt]
  rw [← cast_align (min_le_left exponent e), ← cast_align (min_le_right exponent e),
    mul_lt_mul_iff_left₀ (two_zpow_pos _), Nat.cast_lt]

theorem lt_of_negative {m : Nat} {e : Int} (positive : m ≠ 0) :
    (finite true mantissa exponent).lt (finite false m e) = true := by
  unfold lt signedAt
  simp only [Bool.false_eq_true, if_false, if_true, decide_eq_true_eq]
  have magnitude : 0 < m * Nat.pow 2 (e - min exponent e).toNat :=
    Nat.mul_pos (Nat.pos_of_ne_zero positive) (Nat.two_pow_pos _)
  omega

end Binary64

end ClusterDiscovery

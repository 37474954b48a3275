/-
The attempt that decides.

Attempts end with the first one that succeeds or is the last one allowed, and its outcome is the
result. So they end with the first success or else the last failure, and without a bound they do
not end with a failure. That holds as long as the delays that are waited for are defined, and
they are if their cap leaves room for the variation. A delay near the greatest duration may be
defined but too long when it is varied, and then the attempts break off.
-/

import ClusterDiscovery.Proofs.Retry.Delay
import ClusterDiscovery.Retry.Attempts

namespace ClusterDiscovery.Retry

variable {ε α : Type} {policy : Policy} {variation : Variation} {last : α}
  {earlier rest outcomes : List (Except ε α)} {k n : Nat}

def outcomeOf (last : α) (outcomes : List (Except ε α)) (attempt : Nat) : Except ε α :=
  outcomes[attempt - 1]?.getD (.ok last)

def leadingFailures : List (Except ε α) → Nat
  | [] => 0
  | .ok _ :: _ => 0
  | .error _ :: rest => leadingFailures rest + 1

/-- No attempt follows one that succeeds or is the last one allowed. -/
def Policy.Ends (policy : Policy) (attempt : Nat) (outcome : Except ε α) : Prop :=
  (∃ value, outcome = .ok value) ∨ 0 < policy.maxAttempts ∧ attempt = policy.maxAttempts

/-- The first attempt that no other one follows. -/
structure Decides (policy : Policy) (last : α) (outcomes : List (Except ε α)) (attempt : Nat) :
    Prop where
  positive : 0 < attempt
  ends : policy.Ends attempt (outcomeOf last outcomes attempt)
  first : ∀ earlier, 0 < earlier → earlier < attempt →
    ¬ policy.Ends earlier (outcomeOf last outcomes earlier)

theorem exists_decides (policy : Policy) (last : α) (outcomes : List (Except ε α)) :
    ∃ k, Decides policy last outcomes k := by
  classical
  have some : ∃ k, 0 < k ∧ policy.Ends k (outcomeOf last outcomes k) := by
    refine ⟨outcomes.length + 1, Nat.succ_pos _, Or.inl ⟨last, ?_⟩⟩
    unfold outcomeOf
    rw [Nat.add_sub_cancel, List.getElem?_eq_none (Nat.le_refl _)]
    rfl
  obtain ⟨positive, ends⟩ := Nat.find_spec some
  refine ⟨Nat.find some, positive, ends, ?_⟩
  intro earlier after before endsEarlier
  exact Nat.find_min some before ⟨after, endsEarlier⟩

namespace Decides

variable (decides : Decides policy last outcomes k)

include decides

theorem eq_of_ends (positive : 0 < n) (le : n ≤ k)
    (ends : policy.Ends n (outcomeOf last outcomes n)) : n = k := by
  rcases Nat.lt_or_eq_of_le le with before | same
  · exact absurd ends (decides.first n positive before)
  · exact same

theorem unique {other : Nat} (decidesToo : Decides policy last outcomes other) : other = k := by
  rcases Nat.le_total other k with le | le
  · exact decides.eq_of_ends decidesToo.positive le decidesToo.ends
  · exact (decidesToo.eq_of_ends decides.positive le decides.ends).symm

theorem fails_before (positive : 0 < n) (before : n < k) :
    ∃ failure, outcomeOf last outcomes n = .error failure := by
  cases outcome : outcomeOf last outcomes n with
  | ok value => exact absurd (Or.inl ⟨value, outcome⟩) (decides.first n positive before)
  | error failure => exact ⟨failure, rfl⟩

end Decides

theorem le_leadingFailures (last : α) (fail : ∀ attempt, 0 < attempt → attempt ≤ n →
    ∃ failure, outcomeOf last outcomes attempt = .error failure) :
    n ≤ leadingFailures outcomes := by
  induction outcomes generalizing n with
  | nil =>
      cases n with
      | zero => exact Nat.le_refl 0
      | succ n =>
          obtain ⟨failure, failed⟩ := fail 1 Nat.one_pos (by omega)
          cases failed
  | cons outcome rest ih =>
      cases n with
      | zero => exact Nat.zero_le _
      | succ n =>
          obtain ⟨failure, failed⟩ := fail 1 Nat.one_pos (by omega)
          cases show outcome = .error failure from failed
          refine Nat.succ_le_succ (ih fun attempt positive le => ?_)
          obtain ⟨cause, failedToo⟩ := fail (attempt + 1) (Nat.succ_pos _) (Nat.succ_le_succ le)
          refine ⟨cause, ?_⟩
          obtain ⟨before, rfl⟩ := Nat.exists_eq_succ_of_ne_zero positive.ne'
          exact failedToo

theorem counted_eq (last : α) (few : leadingFailures outcomes < UInt32.size)
    (fail : ∀ attempt, 0 < attempt → attempt ≤ n →
      ∃ failure, outcomeOf last outcomes attempt = .error failure) : counted n = n :=
  Nat.mod_eq_of_lt (lt_of_le_of_lt (le_leadingFailures last fail) few)

theorem outcomeOf_next (last : α) (earlier rest : List (Except ε α)) :
    outcomeOf last (earlier ++ rest) (earlier.length + 1) = rest.head?.getD (.ok last) := by
  unfold outcomeOf
  rw [Nat.add_sub_cancel, List.getElem?_append_right (Nat.le_refl _), Nat.sub_self,
    List.head?_eq_getElem?]

theorem exhausted_iff (allowed : policy.maxAttempts = 0 ∨ n ≤ policy.maxAttempts) :
    policy.exhausted n = true ↔ 0 < policy.maxAttempts ∧ n = policy.maxAttempts := by
  unfold Policy.exhausted
  rw [Bool.and_eq_true, decide_eq_true_eq, decide_eq_true_eq]
  omega

theorem attemptsAfter_error (policy : Policy) (variation : Variation) (last : α) (failed : Nat)
    (failure : ε) (rest : List (Except ε α)) :
    attemptsAfter policy variation last failed (.error failure :: rest) =
      if policy.exhausted (counted (failed + 1)) then .settled (failed + 1) (.error failure)
      else if (policy.pause? variation (failed + 1)).isNone then .undefinedDelay
      else attemptsAfter policy variation last (failed + 1) rest := rfl

/-- The next attempt decides, or it fails and a delay and more attempts follow. -/
theorem attemptsAfter_step (variation : Variation)
    (decides : Decides policy last (earlier ++ rest) k)
    (few : leadingFailures (earlier ++ rest) < UInt32.size) (before : earlier.length < k) :
    k = earlier.length + 1 ∧ attemptsAfter policy variation last earlier.length rest =
        .settled k (outcomeOf last (earlier ++ rest) k) ∨
      earlier.length + 1 < k ∧ ∃ failure later, rest = .error failure :: later ∧
        attemptsAfter policy variation last earlier.length rest =
          if (policy.pause? variation (earlier.length + 1)).isNone then .undefinedDelay
          else
            attemptsAfter policy variation last (earlier ++ [Except.error failure]).length
              later := by
  have next := outcomeOf_next last earlier rest
  have decided {value : α} (success : rest.head?.getD (.ok last) = .ok value) :
      k = earlier.length + 1 :=
    (decides.eq_of_ends (Nat.succ_pos _) before (Or.inl ⟨value, next.trans success⟩)).symm
  cases rest with
  | nil =>
      have same := decided rfl
      rw [same, next]
      exact Or.inl ⟨rfl, rfl⟩
  | cons outcome later =>
      cases outcome with
      | ok value =>
          have same := decided rfl
          rw [same, next]
          exact Or.inl ⟨rfl, rfl⟩
      | error failure =>
          have number : counted (earlier.length + 1) = earlier.length + 1 := by
            refine counted_eq last few fun attempt after le => ?_
            rcases Nat.lt_or_eq_of_le le with earlierOne | same
            · exact decides.fails_before after (by omega)
            · rw [same, next]
              exact ⟨failure, rfl⟩
          have allowed : policy.maxAttempts = 0 ∨ earlier.length + 1 ≤ policy.maxAttempts := by
            by_contra passed
            refine absurd ?_ (decides.first policy.maxAttempts (by omega) (by omega))
            exact Or.inr ⟨by omega, rfl⟩
          rw [attemptsAfter_error, number]
          rcases Nat.lt_or_eq_of_le before with more | same
          · right
            have notEnding := decides.first _ (Nat.succ_pos _) more
            have notExhausted : ¬ policy.exhausted (earlier.length + 1) = true := by
              rw [exhausted_iff allowed]
              exact fun exhausted => notEnding (Or.inr exhausted)
            refine ⟨more, failure, later, rfl, ?_⟩
            rw [if_neg notExhausted, List.length_append, List.length_singleton]
          · left
            have ends := decides.ends
            rw [← same, next] at ends ⊢
            rcases ends with ⟨value, success⟩ | exhausted
            · cases success
            · rw [if_pos ((exhausted_iff allowed).mpr exhausted)]
              exact ⟨rfl, rfl⟩

theorem attemptsAfter_settles (earlier : List (Except ε α))
    (decides : Decides policy last (earlier ++ rest) k)
    (few : leadingFailures (earlier ++ rest) < UInt32.size) (before : earlier.length < k)
    (defined : ∀ n, earlier.length < n → n < k → (policy.pause? variation n).isSome = true) :
    attemptsAfter policy variation last earlier.length rest =
      .settled k (outcomeOf last (earlier ++ rest) k) := by
  induction rest generalizing earlier with
  | nil =>
      rcases attemptsAfter_step variation decides few before with
        ⟨_same, settled⟩ | ⟨_more, _, _, none, _⟩
      · exact settled
      · cases none
  | cons outcome later ih =>
      rcases attemptsAfter_step variation decides few before with
        ⟨_same, settled⟩ | ⟨more, failure, after, split, continues⟩
      · exact settled
      · cases split
        have waits := defined _ (Nat.lt_succ_self _) more
        rw [List.append_cons] at decides few ⊢
        rw [continues, Option.isNone_eq_false_iff.mpr waits, if_neg Bool.false_ne_true]
        refine ih _ decides few (by simpa using more) fun n after => defined n ?_
        simp only [List.length_append, List.length_singleton] at after
        omega

theorem attemptsAfter_breaks_off (earlier : List (Except ε α))
    (decides : Decides policy last (earlier ++ rest) k)
    (few : leadingFailures (earlier ++ rest) < UInt32.size) (after : earlier.length < n)
    (before : n < k) (undefined : policy.pause? variation n = none) :
    attemptsAfter policy variation last earlier.length rest = .undefinedDelay := by
  induction rest generalizing earlier with
  | nil =>
      rcases attemptsAfter_step variation decides few (after.trans before) with
        ⟨same, _settled⟩ | ⟨_more, _, _, none, _⟩
      · omega
      · cases none
  | cons outcome later ih =>
      rcases attemptsAfter_step variation decides few (after.trans before) with
        ⟨same, _settled⟩ | ⟨more, failure, later, split, continues⟩
      · omega
      · cases split
        rw [continues]
        split
        · rfl
        · rename_i waits
          rw [List.append_cons] at decides few
          refine ih _ decides few ?_
          have other : n ≠ earlier.length + 1 := by
            rintro rfl
            rw [undefined] at waits
            exact waits rfl
          rw [List.length_append, List.length_singleton]
          omega

/-- The attempts end with the one that decides and with its outcome, unless a delay that is waited
for before is undefined. None is if the delays are defined and their cap is moderate. Without a
bound on the attempts the one that decides succeeds. -/
theorem attempts_end_with_decisive (policy : Policy) (variation : Variation) (last : α)
    (outcomes : List (Except ε α)) (few : leadingFailures outcomes < UInt32.size) :
    ∃ k, Decides policy last outcomes k ∧
      ((∀ n, 0 < n → n < k → (policy.pause? variation n).isSome = true) →
        attemptsVaried policy variation last outcomes =
          .settled k (outcomeOf last outcomes k)) ∧
      ((∃ n, 0 < n ∧ n < k ∧ policy.pause? variation n = none) →
        attemptsVaried policy variation last outcomes = .undefinedDelay) ∧
      (policy.Moderate → (∀ n, 0 < n → n < k → (policy.delay? n).isSome = true) →
        attemptsVaried policy variation last outcomes =
          .settled k (outcomeOf last outcomes k)) ∧
      (policy.maxAttempts = 0 → ∃ value, outcomeOf last outcomes k = .ok value) := by
  obtain ⟨k, decides⟩ := exists_decides policy last outcomes
  have settles : (∀ n, 0 < n → n < k → (policy.pause? variation n).isSome = true) →
      attemptsVaried policy variation last outcomes = .settled k (outcomeOf last outcomes k) :=
    attemptsAfter_settles [] decides few decides.positive
  refine ⟨k, decides, settles, ?_, ?_, ?_⟩
  · rintro ⟨n, after, before, undefined⟩
    exact attemptsAfter_breaks_off [] decides few after before undefined
  · intro moderate defined
    refine settles fun n positive before => Policy.pause?_isSome moderate ?_
    rw [counted_eq last few fun attempt after le => decides.fails_before after (by omega)]
    exact defined n positive before
  · intro unbounded
    rcases decides.ends with success | ⟨bounded, _last⟩
    · exact success
    · exact absurd unbounded bounded.ne'

theorem attempts_end_with_decisive_sample :
    attemptsVaried { Policy.standard with maxAttempts := 3 } .even "installed"
      [.error "refused", .error "again", .error "at last", .error "unheard"] =
        .settled 3 (.error "at last") := by
  let policy := { Policy.standard with maxAttempts := 3 }
  let outcomes : List (Except String String) :=
    [.error "refused", .error "again", .error "at last", .error "unheard"]
  obtain ⟨k, decides, _settles, _breaksOff, moderately, _unbounded⟩ :=
    attempts_end_with_decisive policy .even "installed" outcomes (by decide)
  have third : Decides policy "installed" outcomes 3 := by
    refine ⟨by decide, Or.inr ⟨by decide, rfl⟩, ?_⟩
    rintro earlier after before (⟨value, success⟩ | ⟨_bounded, last⟩)
    · have known : earlier = 1 ∨ earlier = 2 := by omega
      rcases known with rfl | rfl
      all_goals cases success
    · cases last
      exact absurd before (by decide)
  have same : 3 = k := decides.unique third
  cases same
  refine moderately (by decide : policy.maxDelay.inNanos ≤ 2 ^ 60 * nanosPerSecond) ?_
  intro n _after before
  exact (by decide +kernel : ∀ n < 3, (policy.delay? n).isSome = true) n before

def Policy.farthest : Policy where
  maxAttempts := 0
  initialDelay := ⟨18446744073709549568, 0⟩
  maxDelay := ⟨18446744073709549568, 0⟩
  multiplier := Binary64.ofNat 1

/-- The delays are defined, but the second one is too long when it is varied. -/
theorem farthest_breaks_off : (∀ n, (Policy.farthest.delay? n).isSome = true) ∧
    Decides Policy.farthest "installed" [.error "refused", .error "again"] 3 ∧
    attempts Policy.farthest "installed" [.error "refused", .error "again"] = .undefinedDelay := by
  refine ⟨?_, ⟨by decide, Or.inl ⟨_, rfl⟩, ?_⟩, ?_⟩
  · intro n
    unfold Policy.delay?
    have growth : ∀ m ≤ 63, (Duration.ofSeconds? (Binary64.least
        (Policy.farthest.initialDelay.toSeconds.mul (Policy.farthest.multiplier.power m))
        Policy.farthest.maxDelay.toSeconds)).isSome = true := by decide +kernel
    exact growth _ (min_le_right _ _)
  · rintro earlier after before (⟨value, success⟩ | ⟨bounded, _last⟩)
    · have known : earlier = 1 ∨ earlier = 2 := by omega
      rcases known with rfl | rfl
      all_goals cases success
    · exact absurd bounded (by decide)
  · have first : (Policy.farthest.pause? .even 1).isNone = false := by decide +kernel
    have second : (Policy.farthest.pause? .even 2).isNone = true := by decide +kernel
    unfold attempts attemptsVaried
    rw [attemptsAfter_error, if_neg (by decide), first, if_neg (by decide), attemptsAfter_error,
      if_neg (by decide), second]
    rfl

end ClusterDiscovery.Retry

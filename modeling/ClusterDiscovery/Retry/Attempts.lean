/-
Repeated attempts.

An operation is attempted until it succeeds or no attempt may follow. The result is the
outcome of the last attempt made, so it is the first success, or else the last failure.
-/

import ClusterDiscovery.Retry.Delay

namespace ClusterDiscovery.Retry

inductive Ending (ε α : Type) where
  | settled (attempts : Nat) (outcome : Except ε α)
  | undefinedDelay

/-- Attempt an operation with the given outcomes, the last of which stands for all that
follow, after some attempts have failed. -/
def attemptsAfter {ε α : Type} (policy : Policy) (variation : Variation) (last : α)
    (failed : Nat) : List (Except ε α) → Ending ε α
  | [] => .settled (failed + 1) (.ok last)
  | .ok value :: _ => .settled (failed + 1) (.ok value)
  | .error failure :: rest =>
      if policy.exhausted (counted (failed + 1)) then .settled (failed + 1) (.error failure)
      else if (policy.pause? variation (failed + 1)).isNone then .undefinedDelay
      else attemptsAfter policy variation last (failed + 1) rest

/-- Attempt an operation that fails and succeeds as listed and succeeds afterwards, with
delays that vary. -/
def attemptsVaried {ε α : Type} (policy : Policy) (variation : Variation) (last : α)
    (outcomes : List (Except ε α)) : Ending ε α := attemptsAfter policy variation last 0 outcomes

def attempts {ε α : Type} (policy : Policy) (last : α) (outcomes : List (Except ε α)) :
    Ending ε α := attemptsVaried policy .even last outcomes

end ClusterDiscovery.Retry

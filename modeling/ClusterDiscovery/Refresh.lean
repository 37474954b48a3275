/-
Refresh signals.

A signal queues a pass of the configuration of its namespace and is then deleted. A
signal without such a configuration is deleted only; one whose dispatch or deletion fails
stays and is tried again.
-/

import ClusterDiscovery.Pass.Basic

namespace ClusterDiscovery.Refresh

def dispatch (space : String) : Routine Unit := do
  let known : Bool ← Routine.call (.configExists space Config.conventionalName)
  if known then
    let accepted : Bool ← Routine.perform (.trigger space Config.conventionalName)
    if accepted then pure ()
    else
      Routine.ofExcept
        (.error (.internal "discovery controller is not accepting refreshes"))
  else pure ()

def reconcile (signal : Metadata) : Routine Action := do
  match signal.space with
  | none => Routine.ofExcept (.error (.internal "DiscoveredClusterRefresh has no namespace"))
  | some space =>
      dispatch space
      Routine.call (.deleteRefresh space signal.knownName)
      pure .awaitChange

/-- When a signal whose reconciliation failed is looked at again. -/
def afterFailure (retrySecs : Nat) : Action := .requeue retrySecs

end ClusterDiscovery.Refresh

/-
Discovery passes.

A pass resolves the credential, exchanges it for a token, lists the inventory and makes
the records of the namespace equal to the canonical set. A credential beyond use removes
every record; a hiccup of the remote side leaves them alone until the next attempt; any
other failure is returned.
-/

import ClusterDiscovery.Credential.Token
import ClusterDiscovery.Inventory.Canonical
import ClusterDiscovery.Inventory.Listing
import ClusterDiscovery.Pass.Apply
import ClusterDiscovery.Settings

namespace ClusterDiscovery

inductive Action where
  /-- when it changes -/
  | awaitChange
  | requeue (secs : Nat)
  deriving DecidableEq, Repr

namespace Pass

def secretName (config : Config) : String := Text.trim config.spec.credential

def resolveCredential (config : Config) (space : String) : Routine ResolvedCredential := do
  let name := secretName config
  if name = "" then
    Routine.ofExcept (.error (.credentialUnavailable "" "no credential configured"))
  else
    match ← Routine.call (.getSecret space name) with
    | none => Routine.ofExcept (.error (.credentialUnavailable name "secret not found"))
    | some secret => Routine.ofExcept (secret.fields.bind Credential.resolve)

/-- Write the method of an upgraded credential back to its secret; a failure to do so does
not matter. -/
def persistUpgrade (config : Config) (space : String) (resolved : ResolvedCredential) :
    Routine Unit := do
  if resolved.upgraded then
    let call := ClusterCall.setAuthMethod space (secretName config) resolved.method.name
    let _ ← Routine.attempt (Routine.call call)
    pure ()

def exchange (settings : Settings) (config : Config) (method : AuthMethod) : Routine String := do
  let reply ← Routine.perform (.send (Token.request ⟨method, settings.authUrlFor config⟩))
  Routine.ofExcept (Token.ofReply reply)

def listingRequest (settings : Settings) (config : Config) (token : String)
    (search : Option String) : Inventory.ListingRequest :=
  ⟨token, settings.inventoryUrlFor config, search, settings.pageSize⟩

def discover (settings : Settings) (config : Config) (space : String) :
    Routine (Keyed ClusterSpec) := do
  let resolved ← resolveCredential config space
  persistUpgrade config space resolved
  let token ← exchange settings config resolved.method
  let now ← Routine.perform .now
  let filter := config.spec.filters
  let search ← Routine.orHalt .timeOutOfRange (filter.searchTerm? now)
  let subscriptions ← Inventory.fetch (listingRequest settings config token search)
  let credential : CredentialRef := ⟨secretName config, space⟩
  Routine.orHalt .timeOutOfRange
    (Inventory.canonicalSet? filter credential now subscriptions)

def removeAll (space : String) : Routine Unit := do
  let existing ← Routine.call (.listRecords space)
  (Plan.deletion existing).apply space

def converge (config : Config) (space : String) (canonical : Keyed ClusterSpec) :
    Routine Unit := do
  let existing ← Routine.call (.listRecords space)
  (Plan.changes config canonical existing).apply space
  Routine.perform .nudge

def run (settings : Settings) (config : Config) (space : String) :
    Routine (Action × PassOutcome) := do
  match ← Routine.attempt (discover settings config space) with
  | .ok canonical =>
      converge config space canonical
      pure (.requeue settings.refreshSecs, .applied)
  | .error failure =>
      if failure.requiresCleanup then do
        removeAll space
        pure (.requeue settings.refreshSecs, .cleanup)
      else if failure.isTransient then
        pure (.requeue settings.transientRetrySecs, .transient)
      else Routine.ofExcept (.error failure)

def gaugeOf (count : Nat) : Int := Int.bmod count UInt64.size

/-- Measure the number of configurations; a failure to count them does not matter. -/
def measureConfigs : Routine Unit := do
  match ← Routine.attempt (Routine.call .countConfigs) with
  | .ok count => Routine.measure (.configTotal (gaugeOf count))
  | .error _ => pure ()

def measuredOutcome : Except Failure (Action × PassOutcome) → PassOutcome
  | .ok (_, outcome) => outcome
  | .error _ => .error

def runMeasured (settings : Settings) (config : Config) (space : String) : Routine Action := do
  let result ← Routine.attempt (run settings config space)
  Routine.measure (.passDuration space (measuredOutcome result))
  Routine.ofExcept (result.map Prod.fst)

/-- React to a configuration: run a pass if it carries the conventional name, is valid and
has a namespace. -/
def reconcile (settings : Settings) (config : Config) : Routine Action := do
  measureConfigs
  if !config.isReconcilable then pure .awaitChange
  else if config.problem?.isSome then pure .awaitChange
  else
    match config.metadata.space with
    | none => Routine.ofExcept (.error (.internal "DiscoveryConfig has no namespace"))
    | some space => runMeasured settings config space

def afterFailure (settings : Settings) : Action := .requeue settings.errorRetrySecs

end Pass

end ClusterDiscovery

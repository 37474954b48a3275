/-
Failures of a discovery pass.

A failure says what went wrong, and three tests say how the operator reacts: whether the
credential is beyond use, so that everything it discovered must go; whether the remote
side has a hiccup, so that nothing may be touched; and whether the same attempt can
succeed later without a change of configuration. Reactions never look at messages.
-/

namespace ClusterDiscovery

inductive AuthClass where
  | unrecoverable
  | invalidClient
  | unauthorized
  | transient
  deriving DecidableEq, Repr

def AuthClass.name : AuthClass → String
  | .unrecoverable => "unrecoverable"
  | .invalidClient => "invalid-client"
  | .unauthorized => "unauthorized"
  | .transient => "transient"

structure ApiStatus where
  status : String
  message : String
  reason : String
  code : Nat
  deriving DecidableEq, Repr

/-- Why a call of the cluster's API failed: by an error document, by a success that does not
decode, without a connection, for names that no request can be made of, or by an answer that
is no text. -/
inductive HubFailure where
  | api (status : ApiStatus)
  | document
  | service
  | request
  | encoding
  | other
  deriving DecidableEq, Repr

/-- The API's answer blames the request, and not a concurrent write or the rate. -/
def HubFailure.isRefusal : HubFailure → Bool
  | .api status =>
      400 ≤ status.code && status.code < 500 && status.code != 409 && status.code != 429
  | _ => false

inductive WriteAction where
  | create
  | update
  | delete
  deriving DecidableEq, Repr

def WriteAction.name : WriteAction → String
  | .create => "create"
  | .update => "update"
  | .delete => "delete"

inductive Failure where
  | hub (cause : HubFailure)
  | credentialUnavailable (secret message : String)
  | badCredentialFormat (message : String)
  /-- the token endpoint rejected the exchange; code 0 if there was no response -/
  | auth (rejection : AuthClass) (code : Nat) (tag description : String)
  | missingAccessToken
  | fetchTransient (code : Option Nat) (message : String)
  | malformedResponse (endpoint message raw : String)
  | writeConflict (name : String)
  | applyPartial (action : WriteAction) (name : String) (source : Failure)
  | validation (message : String)
  | internal (message : String)
  deriving DecidableEq, Repr

namespace Failure

/-- What is said of a failure. The words of others, such as those of a parser or of a
connection, are not repeated: a name in angle brackets stands for them. -/
def message : Failure → String
  | .hub _ => "kubernetes error: <kube error>"
  | .credentialUnavailable secret message => s!"credential {secret} unavailable: {message}"
  | .badCredentialFormat message => s!"bad credential format: {message}"
  | .auth rejection code tag description =>
      s!"token exchange failed [{rejection.name}] (HTTP {code}) {tag}: {description}"
  | .missingAccessToken => "missing `access_token` in response"
  | .fetchTransient none message => s!"inventory fetch failed: {message}"
  | .fetchTransient (some code) message =>
      s!"inventory fetch failed (HTTP {code}): {message}"
  | .malformedResponse endpoint message _ =>
      s!"malformed response from {endpoint}: {message}"
  | .writeConflict name => s!"write conflict on {name}: object was modified concurrently"
  | .applyPartial action name source => s!"failed to {action.name} {name}: {source.message}"
  | .validation message => s!"validation error: {message}"
  | .internal message => s!"internal error: {message}"

/-- The credential can no longer be trusted, and every record it discovered must go. -/
def requiresCleanup : Failure → Bool
  | .credentialUnavailable _ _ => true
  | .badCredentialFormat _ => true
  | .auth rejection _ _ _ => rejection != .transient
  | _ => false

/-- The remote side has a hiccup: the pass stops and touches no record. -/
def isTransient : Failure → Bool
  | .auth rejection _ _ _ => rejection == .transient
  | .missingAccessToken => true
  | .fetchTransient _ _ => true
  | .malformedResponse _ _ _ => true
  | _ => false

/-- The same attempt can succeed without a change of configuration. -/
def isRetryable : Failure → Bool
  | .hub cause => !cause.isRefusal
  | .writeConflict _ => true
  | .applyPartial _ _ source => source.isRetryable
  | .validation _ => false
  | failure => failure.isTransient

def hasSource : Failure → Bool
  | .hub _ => true
  | .applyPartial _ _ _ => true
  | _ => false

def isApiCode (code : Nat) : Failure → Bool
  | .hub (.api status) => status.code == code
  | _ => false

theorem not_isTransient_of_requiresCleanup {failure : Failure}
    (h : failure.requiresCleanup = true) : failure.isTransient = false := by
  cases failure <;> simp_all [requiresCleanup, isTransient]

end Failure

end ClusterDiscovery

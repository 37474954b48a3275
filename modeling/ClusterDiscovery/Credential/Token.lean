/-
The token endpoint's replies.

A reply of success must carry a token. Any other reply must say what is wrong and
describe it; then the description and the tag, and after them the status, decide how
the credential was rejected. A body of any other shape says nothing of the credential.
-/

import ClusterDiscovery.Credential.Method
import ClusterDiscovery.Failure
import ClusterDiscovery.Http.Request
import ClusterDiscovery.Json.Parser
import ClusterDiscovery.Json.Record

namespace ClusterDiscovery.Token

open Json

def path : String := "/auth/realms/redhat-external/protocol/openid-connect/token"

def request (auth : AuthRequest) : Http.Request :=
  .form (auth.baseUrl ++ path) auth.method.grantForm

structure Grant where
  accessToken : String
  expiresIn : Int
  refreshExpiresIn : Int
  refreshToken : String
  tokenType : String
  idToken : String
  notBeforePolicy : Int
  sessionState : String
  scope : String
  deriving DecidableEq

/-- Read a grant. Every field may be absent but not null. -/
def Grant.read : Reader Grant := fun value => do
  let names :=
    ["access_token", "expires_in", "refresh_expires_in", "refresh_token", "token_type",
     "id_token", "not-before-policy", "session_state", "scope"]
  match ← fields? names value with
  | [accessToken, expiresIn, refreshExpiresIn, refreshToken, tokenType, idToken,
     notBeforePolicy, sessionState, scope] =>
      let text := orAbsent "" readText
      let integer := orAbsent 0 readSigned
      some {
        accessToken := ← text accessToken
        expiresIn := ← integer expiresIn
        refreshExpiresIn := ← integer refreshExpiresIn
        refreshToken := ← text refreshToken
        tokenType := ← text tokenType
        idToken := ← text idToken
        notBeforePolicy := ← integer notBeforePolicy
        sessionState := ← text sessionState
        scope := ← text scope }
  | _ => none

structure Refusal where
  tag : String
  description : String
  deriving DecidableEq

/-- Read a refusal. Both fields may be absent but not null. -/
def Refusal.read : Reader Refusal := fun value => do
  match ← fields? ["error", "error_description"] value with
  | [tag, description] =>
      some ⟨← orAbsent "" readText tag, ← orAbsent "" readText description⟩
  | _ => none

def Refusal.rejection (refusal : Refusal) (status : Nat) : AuthClass :=
  if refusal.description = "Invalid refresh token" ∨ refusal.tag = "invalid_grant" then
    .unrecoverable
  else if refusal.tag = "invalid_client" ∨ refusal.tag = "unauthorized_client" then
    .invalidClient
  else if status = 401 ∨ status = 403 then .unauthorized
  else .transient

def malformed (message : String) (body : List UInt8) : Failure :=
  .malformedResponse "token" message (Text.Utf8.decodeLossy body)

def refused (status : Nat) (body : List UInt8) : Failure :=
  match (parse? body).bind Refusal.read with
  | none => malformed s!"HTTP {status}: unparseable error body: <json error>" body
  | some refusal =>
      if refusal.tag = "" ∨ refusal.description = "" then
        malformed s!"HTTP {status}: error body lacks error or error_description" body
      else .auth (refusal.rejection status) status refusal.tag refusal.description

def ofResponse (status : Nat) (body : List UInt8) : Except Failure String :=
  if Http.isSuccess status then
    match (parse? body).bind Grant.read with
    | none => .error (malformed "<json error>" body)
    | some grant =>
        if grant.accessToken = "" then .error .missingAccessToken else .ok grant.accessToken
  else .error (refused status body)

def ofReply : Http.Reply → Except Failure String
  | .unreachable =>
      .error (.auth .transient 0 "request_failed" "token request failed: <io error>")
  | .unread status =>
      .error (.auth .transient status "read_failed"
        "failed to read token response: <io error>")
  | .received status body => ofResponse status body

end ClusterDiscovery.Token

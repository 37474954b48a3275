/-
How a credential is exchanged for an access token.

A credential is an offline token or the id and secret of a service account. Both become
a form for the token endpoint. Written out for diagnostics, the secret part of either is
the redacted mark.
-/

import ClusterDiscovery.Text.Quoted

namespace ClusterDiscovery

inductive AuthMethod where
  | offlineToken (token : String)
  | serviceAccount (clientId clientSecret : String)
  deriving DecidableEq

namespace AuthMethod

def offlineTokenName : String := "offline-token"

def serviceAccountName : String := "service-account"

def name : AuthMethod → String
  | .offlineToken _ => offlineTokenName
  | .serviceAccount _ _ => serviceAccountName

def grantForm : AuthMethod → List (String × String)
  | .offlineToken token =>
      [("grant_type", "refresh_token"), ("client_id", "cloud-services"),
       ("refresh_token", token)]
  | .serviceAccount clientId clientSecret =>
      [("grant_type", "client_credentials"), ("client_id", clientId),
       ("client_secret", clientSecret)]

def describe : AuthMethod → String
  | .offlineToken _ => Text.quotedRecord "OfflineToken" [("token", Text.redacted)]
  | .serviceAccount clientId _ =>
      Text.quotedRecord "ServiceAccount"
        [("client_id", Text.quoted clientId), ("client_secret", Text.redacted)]

end AuthMethod

structure AuthRequest where
  method : AuthMethod
  baseUrl : String
  deriving DecidableEq

/-- A request written out without its secret. -/
def AuthRequest.describe (request : AuthRequest) : String :=
  Text.quotedRecord "AuthRequest"
    [("method", request.method.describe), ("base_url", Text.quoted request.baseUrl)]

structure ResolvedCredential where
  method : AuthMethod
  /-- The secret names no method but holds a service account; the method should be
  written back to it. -/
  upgraded : Bool
  deriving DecidableEq

def ResolvedCredential.describe (resolved : ResolvedCredential) : String :=
  Text.quotedRecord "ResolvedCredential"
    [("method", resolved.method.describe),
     ("upgraded", if resolved.upgraded then "true" else "false")]

end ClusterDiscovery

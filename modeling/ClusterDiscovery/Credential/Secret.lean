/-
Credential secrets.

A secret holds bytes under keys, and texts under keys that override them. Four keys
matter: the method, the offline token, and the id and secret of a service account. A
blank value counts as absent. A secret without a method is an offline token, unless it
holds both parts of a service account.
-/

import ClusterDiscovery.Credential.Method
import ClusterDiscovery.Failure
import ClusterDiscovery.Manifest.Metadata
import ClusterDiscovery.Text.Blank
import ClusterDiscovery.Text.Utf8

namespace ClusterDiscovery

structure Secret where
  metadata : Metadata
  data : Option (Keyed (List UInt8))
  stringData : Option (Keyed String)

namespace Secret

def dataEntries (secret : Secret) : List (String × List UInt8) :=
  (secret.data.map Keyed.entries).getD []

def stringEntries (secret : Secret) : List (String × String) :=
  (secret.stringData.map Keyed.entries).getD []

def firstUnreadable? (secret : Secret) : Option String :=
  (secret.dataEntries.find? fun entry => (Text.Utf8.decode? entry.2).isNone).map Prod.fst

def dataTexts (secret : Secret) : List (String × String) :=
  secret.dataEntries.filterMap fun entry =>
    (Text.Utf8.decode? entry.2).map fun text => (entry.1, text)

/-- The fields of a secret: its data as texts, overridden by its texts. -/
def fields (secret : Secret) : Except Failure (Keyed String) :=
  match secret.firstUnreadable? with
  | some key =>
      .error (.credentialUnavailable (secret.metadata.name.getD "")
        s!"key {key} is not valid UTF-8")
  | none => .ok ((Keyed.ofList secret.dataTexts).insertAll secret.stringEntries)

end Secret

namespace Credential

def methodKey : String := "auth_method"

def tokenKey : String := "ocmAPIToken"

def clientIdKey : String := "client_id"

def clientSecretKey : String := "client_secret"

/-- The trimmed value of a key, if it is not blank. -/
def field? (fields : Keyed String) (key : String) : Option String :=
  ((fields.get? key).map Text.trim).filter fun text => text != ""

def ofMethod (fields : Keyed String) (method : String) : Except Failure AuthMethod :=
  if method = AuthMethod.offlineTokenName then
    match field? fields tokenKey with
    | some token => .ok (.offlineToken token)
    | none =>
        .error (.badCredentialFormat s!"{AuthMethod.offlineTokenName} requires {tokenKey}")
  else if method = AuthMethod.serviceAccountName then
    match field? fields clientIdKey, field? fields clientSecretKey with
    | some clientId, some clientSecret => .ok (.serviceAccount clientId clientSecret)
    | _, _ =>
        .error (.badCredentialFormat
          s!"{AuthMethod.serviceAccountName} requires {clientIdKey} and {clientSecretKey}")
  else
    .error (.badCredentialFormat
      (s!"unknown {methodKey} '{method}', expected {AuthMethod.offlineTokenName} or " ++
        AuthMethod.serviceAccountName))

def hasServiceAccount (fields : Keyed String) : Bool :=
  (field? fields clientIdKey).isSome && (field? fields clientSecretKey).isSome

/-- The method that the fields name or imply, and whether it is an upgrade. -/
def chosenMethod (fields : Keyed String) : String × Bool :=
  match field? fields methodKey with
  | some method => (method, false)
  | none =>
      if hasServiceAccount fields then (AuthMethod.serviceAccountName, true)
      else (AuthMethod.offlineTokenName, false)

def resolve (fields : Keyed String) : Except Failure ResolvedCredential :=
  (ofMethod fields (chosenMethod fields).1).map fun method =>
    ⟨method, (chosenMethod fields).2⟩

end Credential

def Secret.setMethod (secret : Secret) (method : String) : Secret :=
  let data := secret.data.getD .empty
  { secret with data := some (data.insert Credential.methodKey (Text.Utf8.encode method)) }

end ClusterDiscovery

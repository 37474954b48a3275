/-
Calls of the cluster's API as requests.

Each call is one request. A call that names an object cannot be made for an empty name,
nor for names that give no request target. A list of which only the metadata matter asks
for the metadata alone; a patch carries only what changes, and a patch of a managed pair
carries the version that was read, so it fails if the record has changed since.
-/

import ClusterDiscovery.Cluster.Codec
import ClusterDiscovery.Definition.Basic
import ClusterDiscovery.Effect.Basic
import ClusterDiscovery.Overlay.Watch
import ClusterDiscovery.Text.RequestTarget

namespace ClusterDiscovery.Hub

open Json

inductive Verb where
  | get
  | post
  | put
  | patch
  | delete
  deriving DecidableEq, Repr

def Verb.name : Verb → String
  | .get => "GET"
  | .post => "POST"
  | .put => "PUT"
  | .patch => "PATCH"
  | .delete => "DELETE"

structure Request where
  verb : Verb
  target : String
  accept : Option String
  contentType : Option String
  body : Option Value

def jsonType : String := "application/json"

def mergeType : String := "application/merge-patch+json"

def metadataListType : String :=
  "application/json;as=PartialObjectMetadataList;g=meta.k8s.io;v=v1"

def fieldManager : String := "discovery-operator"

def patchQuery : String := "?&fieldManager=" ++ fieldManager

def collection (resource : Definition) : String :=
  "/apis/" ++ discoveryApiVersion ++ "/" ++ resource.plural

def collectionIn (resource : Definition) (space : String) : String :=
  "/apis/" ++ discoveryApiVersion ++ "/namespaces/" ++ space ++ "/" ++ resource.plural

def secretsIn (space : String) : String := "/api/v1/namespaces/" ++ space ++ "/secrets"

def managedClusters : String :=
  "/apis/cluster.open-cluster-management.io/v1/managedclusters?&labelSelector=" ++
    Overlay.idLabel

def object? (collection name : String) : Option String :=
  if name = "" then none else some (collection ++ "/" ++ name)

def methodPatch (method : String) : Value :=
  .record [("stringData", .record [(Credential.methodKey, .string method)])]

/-- The patch that sets or clears a managed pair of the record as it was read. -/
def managedPatch (cluster : Cluster) (managed : Bool) : Value :=
  let version := (cluster.metadata.resourceVersion.map Value.string).getD .null
  let label := if managed then Value.string "true" else .null
  .record [
    ("metadata", .record [
      ("resourceVersion", version), ("labels", .record [(Cluster.managedLabel, label)])]),
    ("spec", .record [("isManagedCluster", .bool managed)])]

def read (target : String) : Request := ⟨.get, target, none, none, none⟩

def readMetadata (target : String) : Request :=
  ⟨.get, target, some metadataListType, some jsonType, none⟩

def write (verb : Verb) (target : String) (body : Value) : Request :=
  ⟨verb, target, none, some jsonType, some body⟩

def merge (target : String) (body : Value) : Request :=
  ⟨.patch, target ++ patchQuery, some jsonType, some mergeType, some body⟩

/-- The request of a call, as far as the names go. -/
def draft? : ClusterCall → Option Request
  | .countConfigs => some (readMetadata (collection .configs ++ "?"))
  | .getSecret space name => (object? (secretsIn space) name).map read
  | .setAuthMethod space name method =>
      (object? (secretsIn space) name).map fun target => merge target (methodPatch method)
  | .listRecords space => some (read (collectionIn .clusters space ++ "?"))
  | .createRecord cluster =>
      some (write .post (collectionIn .clusters cluster.space ++ "?") cluster.value)
  | .replaceRecord cluster =>
      (object? (collectionIn .clusters cluster.space) cluster.name).map fun target =>
        write .put (target ++ "?") cluster.value
  | .deleteRecord space name =>
      (object? (collectionIn .clusters space) name).map fun target =>
        write .delete (target ++ "?") (.record [])
  | .listAllRecords => some (read (collection .clusters ++ "?"))
  | .listManagedIds => some (readMetadata managedClusters)
  | .setManaged cluster managed =>
      (object? (collectionIn .clusters cluster.space) cluster.name).map fun target =>
        merge target (managedPatch cluster managed)
  | .configExists space name => (object? (collectionIn .configs space) name).map read
  | .deleteRefresh space name =>
      (object? (collectionIn .refreshes space) name).map fun target =>
        write .delete (target ++ "?") (.record [])

def request? (call : ClusterCall) : Option Request := do
  let draft ← draft? call
  let target ← Text.requestTarget? draft.target
  some { draft with target := target }

end ClusterDiscovery.Hub

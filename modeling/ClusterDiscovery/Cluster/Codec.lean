/-
Records of discovered clusters as JSON.

Only the name of a cluster is required. Other fields may be absent but not null, except
the two times, which are left out when they are absent. What is written is read back
unchanged.
-/

import ClusterDiscovery.Cluster.Basic
import ClusterDiscovery.Manifest.Codec

namespace ClusterDiscovery

open Json
open Time (Instant)

namespace CredentialRef

def read : Reader CredentialRef := fun value => do
  match ← fields? ["name", "namespace"] value with
  | [name, space] => some ⟨← required readText name, ← required readText space⟩
  | _ => none

def value (credential : CredentialRef) : Value :=
  .record [("name", .string credential.name), ("namespace", .string credential.space)]

end CredentialRef

namespace ClusterSpec

def fieldNames : List String :=
  ["name", "displayName", "console", "apiUrl", "creationTimestamp", "activityTimestamp",
   "type", "openshiftVersion", "cloudProvider", "region", "status", "ocpClusterId",
   "rhocmClusterId", "credential", "isManagedCluster"]

def read : Reader ClusterSpec := fun value => do
  match ← fields? fieldNames value with
  | [name, displayName, console, apiUrl, creationTimestamp, activityTimestamp, clusterType,
     version, cloudProvider, region, status, clusterId, managerId, credential, isManaged] =>
      let text := orAbsent "" readText
      some {
        name := ← required readText name
        displayName := ← text displayName
        console := ← text console
        apiUrl := ← text apiUrl
        creationTimestamp := ← optional readInstant creationTimestamp
        activityTimestamp := ← optional readInstant activityTimestamp
        clusterType := ← text clusterType
        version := ← text version
        cloudProvider := ← text cloudProvider
        region := ← text region
        status := ← text status
        clusterId := ← text clusterId
        managerId := ← text managerId
        credential := ← orAbsent ⟨"", ""⟩ CredentialRef.read credential
        isManaged := ← orAbsent false readBool isManaged }
  | _ => none

def members (spec : ClusterSpec) : List (String × Option Value) :=
  let time := Option.map fun t : Instant => Value.string t.toText
  [ ("name", some (.string spec.name)),
    ("displayName", some (.string spec.displayName)),
    ("console", some (.string spec.console)),
    ("apiUrl", some (.string spec.apiUrl)),
    ("creationTimestamp", time spec.creationTimestamp),
    ("activityTimestamp", time spec.activityTimestamp),
    ("type", some (.string spec.clusterType)),
    ("openshiftVersion", some (.string spec.version)),
    ("cloudProvider", some (.string spec.cloudProvider)),
    ("region", some (.string spec.region)),
    ("status", some (.string spec.status)),
    ("ocpClusterId", some (.string spec.clusterId)),
    ("rhocmClusterId", some (.string spec.managerId)),
    ("credential", some spec.credential.value),
    ("isManagedCluster", some (.bool spec.isManaged))]

def value (spec : ClusterSpec) : Value := presentMembers spec.members

end ClusterSpec

namespace Cluster

def readWithin (room : Nat) : Reader Cluster := fun value =>
  (readManifest ClusterSpec.read room value).map fun found => ⟨found.1, found.2⟩

def read : Reader Cluster := readWithin depthLimit

def value (cluster : Cluster) : Value :=
  manifestValue discoveryApiVersion kind cluster.metadata cluster.spec.value

end Cluster

end ClusterDiscovery

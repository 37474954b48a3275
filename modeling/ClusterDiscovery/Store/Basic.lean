/-
A cluster's objects in memory.

Records stand in a list and are known by namespace and name. A create of a known name
changes nothing; an update, a delete and a managed pair reach every record of the name.
Every call succeeds here, so what can fail is said elsewhere.
-/

import ClusterDiscovery.Effect.Basic

namespace ClusterDiscovery

structure Store where
  records : List Cluster
  secrets : List Secret
  managedIds : List String
  configCount : Nat
  configExists : Bool

namespace Store

def empty : Store := ⟨[], [], [], 0, false⟩

def isAt (space name : String) (cluster : Cluster) : Bool :=
  cluster.space == space && cluster.name == name

def isSecretAt (space name : String) (secret : Secret) : Bool :=
  secret.metadata.spaceName == space && secret.metadata.knownName == name

def recordsIn (store : Store) (space : String) : List Cluster :=
  store.records.filter fun cluster => cluster.space == space

def secret? (store : Store) (space name : String) : Option Secret :=
  store.secrets.find? (isSecretAt space name)

/-- Add a record at the end, unless its namespace and name are taken. -/
def create (store : Store) (cluster : Cluster) : Store :=
  if store.records.any (isAt cluster.space cluster.name) then store
  else { store with records := store.records ++ [cluster] }

def replace (store : Store) (cluster : Cluster) : Store :=
  let put (old : Cluster) : Cluster :=
    if isAt cluster.space cluster.name old then cluster else old
  { store with records := store.records.map put }

def delete (store : Store) (space name : String) : Store :=
  { store with records := store.records.filter fun cluster => !isAt space name cluster }

def setManaged (store : Store) (cluster : Cluster) (managed : Bool) : Store :=
  let put (old : Cluster) : Cluster :=
    if isAt cluster.space cluster.name old then old.setManaged managed else old
  { store with records := store.records.map put }

def putSecret (store : Store) (secret : Secret) : Store :=
  let others := store.secrets.filter fun old =>
    !isSecretAt secret.metadata.spaceName secret.metadata.knownName old
  { store with secrets := others ++ [secret] }

def removeSecret (store : Store) (space name : String) : Store :=
  { store with secrets := store.secrets.filter fun secret => !isSecretAt space name secret }

def setAuthMethod (store : Store) (space name method : String) : Store :=
  let put (secret : Secret) : Secret :=
    if isSecretAt space name secret then secret.setMethod method else secret
  { store with secrets := store.secrets.map put }

def perform : (call : ClusterCall) → Store → call.Result × Store
  | .countConfigs, store => (store.configCount, store)
  | .getSecret space name, store => (store.secret? space name, store)
  | .setAuthMethod space name method, store => ((), store.setAuthMethod space name method)
  | .listRecords space, store => (store.recordsIn space, store)
  | .createRecord cluster, store => ((), store.create cluster)
  | .replaceRecord cluster, store => ((), store.replace cluster)
  | .deleteRecord space name, store => ((), store.delete space name)
  | .listAllRecords, store => (store.records, store)
  | .listManagedIds, store => (store.managedIds, store)
  | .setManaged cluster managed, store => ((), store.setManaged cluster managed)
  | .configExists _ _, store => (store.configExists, store)
  | .deleteRefresh _ _, store => ((), store)

end Store

end ClusterDiscovery

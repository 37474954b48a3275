/-
Records of discovered clusters.

A record shows one cluster of the inventory. It is named after the cluster's external
id, is owned by the configuration that found it, and carries a managed pair: a flag in
its specification and a label. The pair belongs to the managed overlay alone; discovery
compares and replaces everything else.
-/

import ClusterDiscovery.Config.Basic

namespace ClusterDiscovery

open Time (Instant)

structure CredentialRef where
  name : String
  space : String
  deriving DecidableEq, Repr

structure ClusterSpec where
  name : String
  displayName : String
  console : String
  apiUrl : String
  creationTimestamp : Option Instant
  activityTimestamp : Option Instant
  clusterType : String
  version : String
  cloudProvider : String
  region : String
  status : String
  /-- The cluster's own id, the same as the name. -/
  clusterId : String
  /-- The id under which the inventory's owner manages the cluster, if it does. -/
  managerId : String
  credential : CredentialRef
  isManaged : Bool
  deriving DecidableEq

def sameSecond (a b : Option Instant) : Bool :=
  (a.map Instant.second) == (b.map Instant.second)

/-- Equal in every discovered field: the managed flag is left out and times are compared
by whole seconds. -/
def ClusterSpec.sameAs (a b : ClusterSpec) : Bool :=
  a.name == b.name && a.displayName == b.displayName && a.console == b.console &&
    a.apiUrl == b.apiUrl && sameSecond a.creationTimestamp b.creationTimestamp &&
    sameSecond a.activityTimestamp b.activityTimestamp && a.clusterType == b.clusterType &&
    a.version == b.version && a.cloudProvider == b.cloudProvider && a.region == b.region &&
    a.status == b.status && a.clusterId == b.clusterId && a.managerId == b.managerId &&
    a.credential == b.credential

structure Cluster where
  metadata : Metadata
  spec : ClusterSpec

namespace Cluster

def kind : String := "DiscoveredCluster"

def managedLabel : String := "isManagedCluster"

def name (cluster : Cluster) : String := cluster.metadata.knownName

def space (cluster : Cluster) : String := cluster.metadata.spaceName

def ownedBy (config : Config) (spec : ClusterSpec) : Cluster where
  metadata := { Metadata.empty with
    name := some spec.name
    space := config.metadata.space
    ownerReferences := config.ownerReference?.map fun owner => [owner] }
  spec := spec

def hasManagedLabel (cluster : Cluster) : Bool :=
  cluster.metadata.label? managedLabel == some "true"

def isManaged (cluster : Cluster) : Bool :=
  cluster.spec.isManaged && cluster.hasManagedLabel

def managedMatches (cluster : Cluster) (managed : Bool) : Bool :=
  if managed then cluster.isManaged
  else !cluster.spec.isManaged && !cluster.hasManagedLabel

/-- Set or clear both halves of the managed pair, and nothing else. -/
def setManaged (cluster : Cluster) (managed : Bool) : Cluster where
  metadata :=
    if managed then cluster.metadata.setLabel managedLabel "true"
    else cluster.metadata.removeLabel managedLabel
  spec := { cluster.spec with isManaged := managed }

/-- The record with a new specification; the managed flag stays. -/
def withSpec (cluster : Cluster) (desired : ClusterSpec) : Cluster :=
  { cluster with spec := { desired with isManaged := cluster.spec.isManaged } }

end Cluster

end ClusterDiscovery

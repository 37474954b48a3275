/-
Discovery configurations.

A configuration names the credential secret of its namespace and the filter of the
clusters to discover. Only the one that carries the conventional name is acted upon, so
a namespace has at most one.
-/

import ClusterDiscovery.Filter
import ClusterDiscovery.Manifest.Metadata

namespace ClusterDiscovery

def discoveryApiVersion : String := "discovery.open-cluster-management.io/v1"

structure ConfigSpec where
  credential : String
  filters : Filter

structure Config where
  metadata : Metadata
  spec : ConfigSpec

namespace Config

def kind : String := "DiscoveryConfig"

def conventionalName : String := "discovery"

def isReconcilable (config : Config) : Bool :=
  config.metadata.name == some conventionalName

def problem? (config : Config) : Option Failure := config.spec.filters.problem?

/-- A reference to the configuration as controlling owner; it takes a name and a uid. -/
def ownerReference? (config : Config) : Option OwnerReference := do
  let name ← config.metadata.name
  let uid ← config.metadata.uid
  some ⟨discoveryApiVersion, kind, name, uid, some true, some true⟩

end Config

end ClusterDiscovery

/-
The metadata of an object in a cluster.

Every member may be absent, and an absent map is not an empty one. The text by which an
object is known is its name, or the stem of a generated name, or nothing.
-/

import ClusterDiscovery.Json.Value
import ClusterDiscovery.Keyed
import ClusterDiscovery.Time.Instant

namespace ClusterDiscovery

open Time (Instant)

structure OwnerReference where
  apiVersion : String
  kind : String
  name : String
  uid : String
  controller : Option Bool
  blockOwnerDeletion : Option Bool
  deriving DecidableEq

structure ManagedFields where
  apiVersion : Option String
  fieldsType : Option String
  fields : Option Json.Value
  manager : Option String
  operation : Option String
  subresource : Option String
  time : Option Instant

structure Metadata where
  name : Option String
  generateName : Option String
  space : Option String
  uid : Option String
  resourceVersion : Option String
  selfLink : Option String
  generation : Option Int
  deletionGracePeriodSeconds : Option Int
  creationTimestamp : Option Instant
  deletionTimestamp : Option Instant
  labels : Option (Keyed String)
  annotations : Option (Keyed String)
  ownerReferences : Option (List OwnerReference)
  finalizers : Option (List String)
  managedFields : Option (List ManagedFields)

namespace Metadata

def empty : Metadata :=
  ⟨none, none, none, none, none, none, none, none, none, none, none, none, none, none, none⟩

def knownName (metadata : Metadata) : String :=
  (metadata.name.orElse fun _ => metadata.generateName).getD ""

def spaceName (metadata : Metadata) : String := metadata.space.getD ""

def label? (metadata : Metadata) (key : String) : Option String :=
  metadata.labels.bind fun labels => labels.get? key

def annotation? (metadata : Metadata) (key : String) : Option String :=
  metadata.annotations.bind fun annotations => annotations.get? key

def setLabel (metadata : Metadata) (key value : String) : Metadata :=
  { metadata with labels := some ((metadata.labels.getD .empty).insert key value) }

def removeLabel (metadata : Metadata) (key : String) : Metadata :=
  { metadata with labels := metadata.labels.map fun labels => labels.erase key }

end Metadata

end ClusterDiscovery

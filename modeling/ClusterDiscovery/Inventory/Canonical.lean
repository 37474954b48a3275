/-
The set of records that a namespace should have.

Each admitted subscription gives the specification of a record, which the allow-lists
judge again and which is keyed by its cluster id. Of several subscriptions of one cluster
the last counts.
-/

import ClusterDiscovery.Inventory.Admission
import ClusterDiscovery.Inventory.Derivation

namespace ClusterDiscovery.Inventory

open Time (Instant)

def contribution? (filter : Filter) (credential : CredentialRef) (cutoff : Option Instant)
    (subscription : Subscription) : Option ClusterSpec :=
  if subscription.admitted filter cutoff then
    (subscription.recordSpec? credential).filter filter.admitsSpec
  else none

def canonicalSet (filter : Filter) (credential : CredentialRef) (cutoff : Option Instant)
    (subscriptions : List Subscription) : Keyed ClusterSpec :=
  Keyed.ofList ((subscriptions.filterMap (contribution? filter credential cutoff)).map
    fun spec => (spec.name, spec))

/-- The canonical set of an inventory; absent if the cutoff is. -/
def canonicalSet? (filter : Filter) (credential : CredentialRef) (now : Instant)
    (subscriptions : List Subscription) : Option (Keyed ClusterSpec) :=
  (filter.cutoff? now).map fun cutoff => canonicalSet filter credential cutoff subscriptions

end ClusterDiscovery.Inventory

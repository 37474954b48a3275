/-
The plan of a pass.

The canonical set is compared with the existing records, one record after the other. A
record whose specification differs is updated and keeps its metadata and its managed
flag; one that the set does not have is deleted; what remains of the set is created. A
plan therefore accounts for every record and every member of the set exactly once.
-/

import ClusterDiscovery.Cluster.Basic

namespace ClusterDiscovery

/-- The mutations that make the existing records equal to the canonical set. -/
structure Plan where
  create : List Cluster
  update : List Cluster
  delete : List String
  unchanged : Nat

namespace Plan

def isEmpty (plan : Plan) : Bool :=
  plan.create.isEmpty && plan.update.isEmpty && plan.delete.isEmpty

/-- The plan that deletes every record and does nothing else. -/
def deletion (existing : List Cluster) : Plan := ⟨[], [], existing.map Cluster.name, 0⟩

/-- What a comparison has found, and the members of the set that no record has matched. -/
structure Comparison where
  update : List Cluster
  delete : List String
  unchanged : Nat
  unmatched : Keyed ClusterSpec

def compare (canonical : Keyed ClusterSpec) : List Cluster → Comparison
  | [] => ⟨[], [], 0, canonical⟩
  | current :: rest =>
      match canonical.get? current.name with
      | none =>
          let found := compare canonical rest
          { found with delete := current.name :: found.delete }
      | some desired =>
          let found := compare (canonical.erase current.name) rest
          if desired.sameAs current.spec then { found with unchanged := found.unchanged + 1 }
          else { found with update := current.withSpec desired :: found.update }

def changes (config : Config) (canonical : Keyed ClusterSpec) (existing : List Cluster) :
    Plan :=
  let found := compare canonical existing
  { create := found.unmatched.values.map (Cluster.ownedBy config)
    update := found.update
    delete := found.delete
    unchanged := found.unchanged }

end Plan

end ClusterDiscovery

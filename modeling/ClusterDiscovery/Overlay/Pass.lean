/-
Passes of the managed overlay.

A pass goes through all records of all namespaces and writes the managed pair of each one
whose pair is stale. A write that fails is counted and stops nothing. If a list cannot be
read, or there are no records, the pass does nothing.
-/

import ClusterDiscovery.Effect.Program

namespace ClusterDiscovery.Overlay

structure Summary where
  examined : Nat
  updated : Nat
  failed : Nat
  deriving DecidableEq, Repr

def Summary.nothing : Summary := ⟨0, 0, 0⟩

def Summary.kept (summary : Summary) : Summary :=
  { summary with examined := summary.examined + 1 }

def Summary.wrote (summary : Summary) : Summary :=
  { summary with examined := summary.examined + 1, updated := summary.updated + 1 }

def Summary.missed (summary : Summary) : Summary :=
  { summary with examined := summary.examined + 1, failed := summary.failed + 1 }

/-- Write a managed pair and count the write; whether it succeeded. -/
def write (cluster : Cluster) (managed : Bool) : Program Bool := do
  match ← Program.effect (.cluster (.setManaged cluster managed)) with
  | .ok _ => do
      Program.effect (.measure (.overlayUpdate managed))
      pure true
  | .error _ => pure false

def repair (managedIds : List String) (summary : Summary) : List Cluster → Program Summary
  | [] => pure summary
  | cluster :: rest => do
      let managed := managedIds.contains cluster.name
      if cluster.managedMatches managed then repair managedIds summary.kept rest
      else if ← write cluster managed then repair managedIds summary.wrote rest
      else repair managedIds summary.missed rest

def pass : Program Summary := do
  match ← Program.effect (.cluster .listAllRecords) with
  | .error _ => pure .nothing
  | .ok records =>
      if (records : List Cluster).isEmpty then pure .nothing
      else
        match ← Program.effect (.cluster .listManagedIds) with
        | .error _ => pure .nothing
        | .ok managedIds => repair managedIds .nothing records

end ClusterDiscovery.Overlay

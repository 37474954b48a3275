/-
A world for the operator's programs.

A world answers every effect: a store carries out the calls of the cluster's API unless a
fault strikes them, a remote side answers requests, and a clock stands still. It keeps a
journal of what was done, so programs can be compared by what they did.
-/

import ClusterDiscovery.Effect.Program
import ClusterDiscovery.Http.Remote
import ClusterDiscovery.Store.Basic
import ClusterDiscovery.Store.Fault

namespace ClusterDiscovery

/-- What was done, the last first. -/
structure Journal where
  calls : List (ClusterCall × Bool)
  requests : List Http.Request
  measurements : List Measurement
  nudged : Bool
  triggers : List (String × String)

def Journal.blank : Journal := ⟨[], [], [], false, []⟩

structure World where
  store : Store
  faults : List Fault
  remote : Http.Remote
  clock : Time.Instant
  acceptsTriggers : Bool
  journal : Journal

namespace World

def logCall (world : World) (call : ClusterCall) (succeeded : Bool) : World :=
  { world with journal :=
      { world.journal with calls := (call, succeeded) :: world.journal.calls } }

def callCluster (world : World) (call : ClusterCall) :
    Except Failure call.Result × World :=
  match Fault.strike call world.faults with
  | (some failure, faults) =>
      (.error failure, { world.logCall call false with faults := faults })
  | (none, faults) =>
      let performed := world.store.perform call
      (.ok performed.1, { world.logCall call true with
        faults := faults, store := performed.2 })

def send (world : World) (request : Http.Request) : Http.Reply × World :=
  let reached :=
    if world.remote.reachable then
      { world with journal :=
          { world.journal with requests := request :: world.journal.requests } }
    else world
  (world.remote.reply request, reached)

def handle : Handler World
  | .cluster call, world => world.callCluster call
  | .send request, world => world.send request
  | .now, world => (world.clock, world)
  | .measure measurement, world =>
      ((), { world with journal :=
        { world.journal with measurements := measurement :: world.journal.measurements } })
  | .nudge, world => ((), { world with journal := { world.journal with nudged := true } })
  | .trigger space name, world =>
      if world.acceptsTriggers then
        (true, { world with journal :=
          { world.journal with triggers := (space, name) :: world.journal.triggers } })
      else (false, world)

end World

end ClusterDiscovery

/-
What the operator does to the world.

The operator reads and writes the objects of a cluster, sends requests to two remote
endpoints, looks at the clock, records measurements and wakes its own loops. Each of
these is an effect with a type of answers, so what a loop does can be said without
saying who carries it out.
-/

import ClusterDiscovery.Cluster.Basic
import ClusterDiscovery.Credential.Secret
import ClusterDiscovery.Http.Request

namespace ClusterDiscovery

inductive ClusterCall where
  | countConfigs
  | getSecret (space name : String)
  | setAuthMethod (space name method : String)
  | listRecords (space : String)
  | createRecord (cluster : Cluster)
  | replaceRecord (cluster : Cluster)
  | deleteRecord (space name : String)
  | listAllRecords
  | listManagedIds
  | setManaged (cluster : Cluster) (managed : Bool)
  | configExists (space name : String)
  | deleteRefresh (space name : String)

def ClusterCall.Result : ClusterCall → Type
  | .countConfigs => Nat
  | .getSecret _ _ => Option Secret
  | .listRecords _ => List Cluster
  | .listAllRecords => List Cluster
  | .listManagedIds => List String
  | .configExists _ _ => Bool
  | _ => Unit

inductive PassOutcome where
  | applied
  | cleanup
  | transient
  | error
  deriving DecidableEq, Repr

def PassOutcome.name : PassOutcome → String
  | .applied => "applied"
  | .cleanup => "cleanup"
  | .transient => "transient"
  | .error => "error"

inductive Measurement where
  | configTotal (count : Int)
  | passDuration (space : String) (outcome : PassOutcome)
  | recordWrite (action : WriteAction)
  | overlayUpdate (managed : Bool)
  deriving DecidableEq, Repr

def Measurement.instrument : Measurement → String
  | .configTotal _ => "discovery_config_total"
  | .passDuration _ _ => "discovery_pass_duration_seconds"
  | .recordWrite _ => "discovered_cluster_writes_total"
  | .overlayUpdate _ => "discovery_managed_overlay_updates_total"

def Measurement.labels : Measurement → List (String × String)
  | .configTotal _ => []
  | .passDuration space outcome => [("namespace", space), ("outcome", outcome.name)]
  | .recordWrite action => [("action", action.name)]
  | .overlayUpdate managed => [("managed", toString managed)]

inductive Effect where
  | cluster (call : ClusterCall)
  | send (request : Http.Request)
  | now
  | measure (measurement : Measurement)
  | nudge
  | trigger (space name : String)

def Effect.Answer : Effect → Type
  | .cluster call => Except Failure call.Result
  | .send _ => Http.Reply
  | .now => Time.Instant
  | .measure _ => Unit
  | .nudge => Unit
  /- whether the queue accepts the configuration -/
  | .trigger _ _ => Bool

end ClusterDiscovery

/-
From a subscription to the specification of a record.

A subscription without an external id or without telemetry, or one that is only reserved,
identifies no cluster. The host in a standard console URL gives the URL of the API server
and, where no better name is known, the display name.
-/

import ClusterDiscovery.Cluster.Basic
import ClusterDiscovery.Inventory.Subscription
import ClusterDiscovery.Text.Blank

namespace ClusterDiscovery.Subscription

def consolePrefix : String := "https://console-openshift-console.apps."

/-- A host without its last colon and what follows it. -/
def bareHost (host : List Char) : List Char :=
  match Text.dropTrailing (· != ':') host with
  | [] => host
  | upToColon => upToColon.dropLast

def consoleHost? (url : String) : Option (List Char) :=
  if consolePrefix.toList.isPrefixOf url.toList then
    match bareHost (url.toList.drop consolePrefix.toList.length) with
    | [] => none
    | host => some host
  else none

def hostName (host : List Char) : String :=
  String.ofList (host.map fun c => if c = '.' then '-' else c)

def apiUrl (host : List Char) : String :=
  "https://api." ++ String.ofList host ++ ":6443"

/-- The name to show: the given one unless it is empty or just the id, else the host's,
else the id. -/
def shownName (subscription : Subscription) (host : Option (List Char)) : String :=
  if subscription.displayName ≠ "" ∧ subscription.displayName ≠ subscription.externalId then
    subscription.displayName
  else
    match host with
    | some host => hostName host
    | none => subscription.externalId

def clusterType (planId : String) : String :=
  if planId = "MOA" ∨ planId = "MOA-HostedControlPlane" then "ROSA" else planId

/-- The specification of the record, if the subscription identifies a cluster. -/
def recordSpec? (subscription : Subscription) (credential : CredentialRef) :
    Option ClusterSpec :=
  match subscription.telemetry with
  | [] => none
  | report :: _ =>
      if subscription.externalId = "" ∨ subscription.status = "Reserved" then none
      else
        let host := consoleHost? subscription.consoleUrl
        some {
          name := subscription.externalId
          displayName := subscription.shownName host
          console := subscription.consoleUrl
          apiUrl := (host.map apiUrl).getD ""
          creationTimestamp := subscription.createdAt
          activityTimestamp := subscription.lastTelemetryAt
          clusterType := clusterType subscription.plan.id
          version := report.version
          cloudProvider := subscription.cloudProvider
          region := subscription.region
          status := subscription.status
          clusterId := subscription.externalId
          managerId := subscription.clusterId
          credential := credential
          isManaged := false }

end ClusterDiscovery.Subscription

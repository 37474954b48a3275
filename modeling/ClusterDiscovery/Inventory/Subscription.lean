/-
Subscriptions of the inventory.

A subscription is one cluster as the inventory knows it. Every field may be absent or
null, and both mean the same.
-/

import ClusterDiscovery.Json.Record
import ClusterDiscovery.Manifest.Codec

namespace ClusterDiscovery

open Json
open Time (Instant)

structure ObjectReference where
  kind : String
  id : String
  href : String
  deriving DecidableEq

def ObjectReference.empty : ObjectReference := ⟨"", "", ""⟩

def ObjectReference.read : Reader ObjectReference := fun value => do
  match ← fields? ["kind", "id", "href"] value with
  | [kind, id, href] =>
      let text := orNull "" readText
      some ⟨← text kind, ← text id, ← text href⟩
  | _ => none

structure Telemetry where
  version : String
  deriving DecidableEq

def Telemetry.read : Reader Telemetry := fun value => do
  match ← fields? ["openshift_version"] value with
  | [version] => some ⟨← orNull "" readText version⟩
  | _ => none

structure Subscription where
  id : String
  /-- The cluster's own id. -/
  externalId : String
  /-- The id under which the inventory's owner manages the cluster, if it does. -/
  clusterId : String
  displayName : String
  consoleUrl : String
  plan : ObjectReference
  telemetry : List Telemetry
  cloudProvider : String
  region : String
  status : String
  createdAt : Option Instant
  updatedAt : Option Instant
  lastTelemetryAt : Option Instant
  managed : Bool
  supportLevel : String
  deriving DecidableEq

namespace Subscription

def fieldNames : List String :=
  ["id", "external_cluster_id", "cluster_id", "display_name", "console_url", "plan",
   "metrics", "cloud_provider_id", "region_id", "status", "created_at", "updated_at",
   "last_telemetry_date", "managed", "support_level"]

def read : Reader Subscription := fun value => do
  match ← fields? fieldNames value with
  | [id, externalId, clusterId, displayName, consoleUrl, plan, telemetry, cloudProvider,
     region, status, createdAt, updatedAt, lastTelemetryAt, managed, supportLevel] =>
      let text := orNull "" readText
      let time := optional readInstant
      some {
        id := ← text id
        externalId := ← text externalId
        clusterId := ← text clusterId
        displayName := ← text displayName
        consoleUrl := ← text consoleUrl
        plan := ← orNull .empty ObjectReference.read plan
        telemetry := ← orNull [] (readList Telemetry.read) telemetry
        cloudProvider := ← text cloudProvider
        region := ← text region
        status := ← text status
        createdAt := ← time createdAt
        updatedAt := ← time updatedAt
        lastTelemetryAt := ← time lastTelemetryAt
        managed := ← orNull false readBool managed
        supportLevel := ← text supportLevel }
  | _ => none

end Subscription

end ClusterDiscovery

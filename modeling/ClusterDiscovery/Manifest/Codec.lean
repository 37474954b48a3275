/-
Metadata as JSON.

Metadata comes from an object alone; a null member counts as absent and the last of
several members of one name counts. Absent members are not written. The fields of a manager
are held whole, so a reader knows how deep its value may nest where it stands.
-/

import ClusterDiscovery.Json.Held
import ClusterDiscovery.Manifest.Metadata
import ClusterDiscovery.Time.Timestamp

namespace ClusterDiscovery

open Json
open Time (Instant)

def Json.readInstant : Reader Instant := fun value => (readText value).bind Instant.ofText?

namespace OwnerReference

def read : Reader OwnerReference := fun value => do
  let members ← readMembers value
  let text := lastMember? readText members
  let flag := lastMember? readBool members
  some {
    apiVersion := (← text "apiVersion").getD ""
    kind := (← text "kind").getD ""
    name := (← text "name").getD ""
    uid := (← text "uid").getD ""
    controller := ← flag "controller"
    blockOwnerDeletion := ← flag "blockOwnerDeletion" }

def value (owner : OwnerReference) : Value :=
  presentMembers [
    ("apiVersion", some (.string owner.apiVersion)),
    ("blockOwnerDeletion", owner.blockOwnerDeletion.map .bool),
    ("controller", owner.controller.map .bool),
    ("kind", some (.string owner.kind)),
    ("name", some (.string owner.name)),
    ("uid", some (.string owner.uid))]

end OwnerReference

namespace ManagedFields

def readWithin (room : Nat) : Reader ManagedFields := fun value => do
  let members ← readMembers value
  let text := lastMember? readText members
  some {
    apiVersion := ← text "apiVersion"
    fieldsType := ← text "fieldsType"
    fields := ← lastMember? (Value.held? (room - 1)) members "fieldsV1"
    manager := ← text "manager"
    operation := ← text "operation"
    subresource := ← text "subresource"
    time := ← lastMember? readInstant members "time" }

def value (entry : ManagedFields) : Value :=
  presentMembers [
    ("apiVersion", entry.apiVersion.map .string),
    ("fieldsType", entry.fieldsType.map .string),
    ("fieldsV1", entry.fields),
    ("manager", entry.manager.map .string),
    ("operation", entry.operation.map .string),
    ("subresource", entry.subresource.map .string),
    ("time", entry.time.map fun t => .string t.toWholeText)]

end ManagedFields

namespace Metadata

def readWithin (room : Nat) : Reader Metadata := fun value => do
  let members ← readMembers value
  let text := lastMember? readText members
  let time := lastMember? readInstant members
  let table := lastMember? (readTable readText) members
  some {
    name := ← text "name"
    generateName := ← text "generateName"
    space := ← text "namespace"
    uid := ← text "uid"
    resourceVersion := ← text "resourceVersion"
    selfLink := ← text "selfLink"
    generation := ← lastMember? readSigned members "generation"
    deletionGracePeriodSeconds :=
      ← lastMember? readSigned members "deletionGracePeriodSeconds"
    creationTimestamp := ← time "creationTimestamp"
    deletionTimestamp := ← time "deletionTimestamp"
    labels := ← table "labels"
    annotations := ← table "annotations"
    ownerReferences := ← lastMember? (readList OwnerReference.read) members "ownerReferences"
    finalizers := ← lastMember? (readList readText) members "finalizers"
    managedFields :=
      ← lastMember? (readList (ManagedFields.readWithin (room - 2))) members "managedFields" }

def read : Reader Metadata := readWithin depthLimit

def value (metadata : Metadata) : Value :=
  let text := Option.map Value.string
  let time := Option.map fun t : Instant => Value.string t.toWholeText
  let table := Option.map (tableValue Value.string)
  presentMembers [
    ("name", text metadata.name),
    ("generateName", text metadata.generateName),
    ("namespace", text metadata.space),
    ("uid", text metadata.uid),
    ("resourceVersion", text metadata.resourceVersion),
    ("selfLink", text metadata.selfLink),
    ("generation", metadata.generation.map .int),
    ("deletionGracePeriodSeconds", metadata.deletionGracePeriodSeconds.map .int),
    ("creationTimestamp", time metadata.creationTimestamp),
    ("deletionTimestamp", time metadata.deletionTimestamp),
    ("labels", table metadata.labels),
    ("annotations", table metadata.annotations),
    ("ownerReferences",
      metadata.ownerReferences.map fun owners => .array (owners.map OwnerReference.value)),
    ("finalizers", metadata.finalizers.map .strings),
    ("managedFields",
      metadata.managedFields.map fun entries => .array (entries.map ManagedFields.value))]

end Metadata

/-- Read an object that has metadata and a specification. Its kind is not looked at. -/
def Json.readManifest {α : Type} (readSpec : Reader α) (room : Nat) :
    Reader (Metadata × α) := fun value => do
  match ← fields? ["metadata", "spec"] value with
  | [metadata, spec] =>
      some (← required (Metadata.readWithin (room - 1)) metadata, ← required readSpec spec)
  | _ => none

def Json.manifestValue (apiVersion kind : String) (metadata : Metadata) (spec : Value) : Value :=
  .record [
    ("apiVersion", .string apiVersion),
    ("kind", .string kind),
    ("metadata", metadata.value),
    ("spec", spec)]

end ClusterDiscovery

/-
Documents of the cluster's API.

An answer of success is an object, a list of objects or a status; any other is an error
document. Objects of the operator may be given as arrays; the documents of the API itself
may not. A document that is held whole must be legible to its last text and number and
must not nest too deep, while a part that nobody reads may be anything.
-/

import ClusterDiscovery.Cluster.Codec
import ClusterDiscovery.Config.Codec
import ClusterDiscovery.Credential.Secret
import ClusterDiscovery.Json.Parser
import ClusterDiscovery.Text.Base64

namespace ClusterDiscovery.Hub

open Json

/-- The members of an object some of whose fields are known; all others are held whole. -/
def heldFields? (room : Nat) (names : List String) (value : Value) :
    Option (List (Option Value)) := do
  let members ← readMembers value
  let others := members.filter fun entry => !names.contains entry.1
  if others.all (fun entry => entry.2.isLegible (room - 1)) then fields? names value
  else none

def readListMetadata : Reader Unit := fun value => do
  let members ← readMembers value
  let _ ← lastMember? readText members "continue"
  let _ ← lastMember? readSigned members "remainingItemCount"
  let _ ← lastMember? readText members "resourceVersion"
  let _ ← lastMember? readText members "selfLink"
  some ()

def readObjects {α : Type} (read : Nat → Reader α) : Reader (List α) := fun value => do
  match ← heldFields? depthLimit ["metadata", "items"] value with
  | [metadata, items] =>
      let _ ← required readListMetadata metadata
      required (fun items => orNull [] (readList (read (depthLimit - 2))) (some items)) items
  | _ => none

def readPartial (room : Nat) : Reader Metadata := fun value => do
  match ← heldFields? room ["metadata"] value with
  | [metadata] => orAbsent .empty (Metadata.readWithin (room - 1)) metadata
  | _ => none

def readBytes : Reader (List UInt8)
  | .null => some []
  | .text (some text) => Text.base64Decode? text.toList
  | _ => none

def allAre (members : List (String × Value)) (name text : String) : Bool :=
  members.all fun entry => entry.1 != name || readText entry.2 == some text

/-- A secret; its kind may be left out but not be another one. -/
def readSecret : Reader Secret := fun value => do
  let members ← readMembers value
  if allAre members "apiVersion" "v1" && allAre members "kind" "Secret" then
    let _ ← lastMember? readBool members "immutable"
    let _ ← lastMember? readText members "type"
    some {
      metadata :=
        (← lastMember? (Metadata.readWithin (depthLimit - 1)) members "metadata").getD .empty
      data := ← lastMember? (readTable readBytes) members "data"
      stringData := ← lastMember? (readTable readText) members "stringData" }
  else none

def readRefresh : Reader Metadata := fun value =>
  (readManifest (fun spec => (fields? [] spec).map fun _ => ()) depthLimit value).map Prod.fst

def readCause : Reader Unit := fun value => do
  match ← fields? ["reason", "message", "field"] value with
  | [reason, message, field] =>
      let _ ← orAbsent "" readText reason
      let _ ← orAbsent "" readText message
      let _ ← orAbsent "" readText field
      some ()
  | _ => none

def readDetails : Reader Unit := fun value => do
  match ← fields? ["name", "group", "kind", "uid", "causes", "retryAfterSeconds"] value with
  | [name, group, kind, uid, causes, retryAfter] =>
      let _ ← orAbsent "" readText name
      let _ ← orAbsent "" readText group
      let _ ← orAbsent "" readText kind
      let _ ← orAbsent "" readText uid
      let _ ← orAbsent [] (readList readCause) causes
      let _ ← orAbsent 0 (readNatural 32) retryAfter
      some ()
  | _ => none

def readSummary : Reader Unit := fun value =>
  (readWord value).bind fun word =>
    if word = "Success" ∨ word = "Failure" then some () else none

def readStatus : Reader Unit := fun value => do
  match ← fields? ["status", "code", "message", "reason", "details"] value with
  | [status, code, message, reason, details] =>
      let _ ← optional readSummary status
      let _ ← orAbsent 0 (readNatural 16) code
      let _ ← orAbsent "" readText message
      let _ ← orAbsent "" readText reason
      let _ ← optional readDetails details
      some ()
  | _ => none

/-- What a deletion answers: a status, or the object as it was. Its kind is looked up in the
document as it is held whole. -/
def readDeleted {α : Type} (read : Reader α) : Reader Unit := fun value =>
  (value.held? depthLimit).bind fun held =>
    if (held.member? "kind").bind readText = some "Status" then readStatus value
    else (read value).map fun _ => ()

def readErrorParts : Reader (Option String × String × String × Option Nat) := fun value => do
  match ← fields? ["status", "message", "reason", "code"] value with
  | [status, message, reason, code] =>
      let present {α : Type} (read : Reader α) : Reader (Option α) := fun value =>
        (read value).map some
      some (← orAbsent none (present readText) status, ← orAbsent "" readText message,
        ← orAbsent "" readText reason, ← orAbsent none (present (readNatural 16)) code)
  | _ => none

def readError : Reader ApiStatus := fun value => do
  match ← readErrorParts value with
  | (some status, message, reason, some code) => some ⟨status, message, reason, code⟩
  | _ => none

end ClusterDiscovery.Hub

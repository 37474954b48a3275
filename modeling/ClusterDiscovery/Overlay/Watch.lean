/-
The watch of the managed clusters.

The watch first lists all managed clusters and then reads one line for each change. A
change without a version makes it fail and list again, and so does the word that its
version has expired. Any other failure is only reported. After each failure the watch
waits before it goes on. A line that ends too early is passed over.
-/

import ClusterDiscovery.Hub.Document
import ClusterDiscovery.Json.Unfinished
import ClusterDiscovery.Overlay.Loop

namespace ClusterDiscovery.Overlay

open Json

/-- The label of a managed cluster that holds its id; only clusters with it are watched. -/
def idLabel : String := "clusterID"

inductive LineKind where
  | changed
  | removed
  | bookmark
  | refused
  deriving DecidableEq, Repr

namespace LineKind

def words : List (String × LineKind) :=
  [("ADDED", .changed), ("MODIFIED", .changed), ("DELETED", .removed),
   ("BOOKMARK", .bookmark), ("ERROR", .refused)]

def read : Reader LineKind := fun value => (readWord value).bind fun word => words.lookup word

def canBecome : Value → Bool
  | .object [] => true
  | value => (read value).isSome

end LineKind

inductive WatchLine where
  | changed
  | removed
  | bookmark
  | unversioned
  | refused (code : Nat)
  | cutOff
  | unreadable
  deriving DecidableEq, Repr

namespace WatchLine

def objectRoom : Nat := depthLimit - 1

def ofChange (line : WatchLine) (metadata : Metadata) : WatchLine :=
  match metadata.resourceVersion with
  | none => .unversioned
  | some version => if version = "" then .unversioned else line

/-- The kind and the version that a bookmark names, as far as they are there. All else in it
is held whole, but in its metadata nothing else matters. -/
def readBookmarkParts : Reader (Bool × Bool) := fun value => do
  match ← Hub.heldFields? objectRoom ["metadata", "apiVersion", "kind"] value with
  | [metadata, apiVersion, kind] =>
      let isNamed (field : Option Value) : Option Bool :=
        orAbsent false (fun value => (readText value).map fun _ => true) field
      let isTyped := (← isNamed apiVersion) && (← isNamed kind)
      let isVersioned ← orAbsent false (fun value => do
        match ← fields? ["resourceVersion", "annotations"] value with
        | [version, annotations] =>
            let _ ← orAbsent .empty (readTable readText) annotations
            isNamed version
        | _ => none) metadata
      some (isTyped, isVersioned)
  | _ => none

def ofObject? (kind : LineKind) (object : Value) : Option WatchLine :=
  match kind with
  | .changed => (Hub.readPartial objectRoom object).map (ofChange .changed)
  | .removed => (Hub.readPartial objectRoom object).map (ofChange .removed)
  | .bookmark =>
      if readBookmarkParts object = some (true, true) then some .bookmark else none
  | .refused => (Hub.readError object).map fun status => .refused status.code

/-- Nothing in an object is refused by a line of a kind, though some may still be missing. -/
def canBecome (kind : LineKind) (object : Value) : Bool :=
  match kind with
  | .changed => (Hub.readPartial objectRoom object).isSome
  | .removed => (Hub.readPartial objectRoom object).isSome
  | .bookmark => (readBookmarkParts object).isSome
  | .refused => (Hub.readErrorParts object).isSome

def memberNames : List String := ["type", "object"]

/-- The line that a value is. Its kind and its object are members or items; an object in
front of its kind is held whole until the kind is known. -/
def ofValue? : Value → Option WatchLine
  | .object members => do
      let members ← namedMembers? members
      let kind ← (members.lookup "type").bind LineKind.read
      let object ← members.lookup "object"
      let first := members.find? fun entry => memberNames.contains entry.1
      let isLegible := first.any (fun entry => entry.1 == "type") || object.isLegible objectRoom
      if memberNames.all (occursOnce members) && isLegible then ofObject? kind object else none
  | .array [kind, object] => (LineKind.read kind).bind fun kind => ofObject? kind object
  | _ => none

def canGoOn (parser : Parser) : Bool :=
  match parser.soFar? with
  | none => true
  | some (.object members) =>
      match namedMembers? members with
      | none => false
      | some members =>
          let pending := parser.pendingName?.toList.map fun name => (name, Value.null)
          let kind := members.lookup "type"
          let isAccepted (object : Value) : Bool :=
            match kind.bind LineKind.read with
            | none => object.isLegible objectRoom
            | some kind => canBecome kind object
          memberNames.all (occursOnce (members ++ pending)) &&
            kind.all LineKind.canBecome && (members.lookup "object").all isAccepted
  | some (.array []) => true
  | some (.array [kind]) => LineKind.canBecome kind
  | some (.array [kind, object]) =>
      !parser.awaitsItem && (LineKind.read kind).any fun kind => canBecome kind object
  | some _ => false

def read (bytes : List UInt8) : WatchLine :=
  match parse? bytes with
  | some value => (ofValue? value).getD .unreadable
  | none => if (unfinished? bytes).any canGoOn then .cutOff else .unreadable

def readAll (text : String) : List WatchLine :=
  (text.splitOn "\n").map fun line =>
    let chars := line.toList
    let chars := if chars.getLast? = some '\r' then chars.dropLast else chars
    read (chars.flatMap String.utf8EncodeChar)

end WatchLine

def expiredCode : Nat := 410

structure Watch where
  /-- The managed clusters must be listed before lines are read. -/
  mustList : Bool
  listFailures : Nat
  isListable : Bool
  hasRequested : Bool
  lines : List WatchLine
  /-- The watch does nothing before this time. -/
  readyAt : Nat

namespace Watch

/-- How long the watch waits after a failure, in milliseconds. -/
def pause : Nat := 1000

def initial (listFailures : Nat) (items : List Value) : Watch where
  mustList := true
  listFailures := listFailures
  isListable := items.all fun item => (Hub.readPartial (depthLimit - 2) item).isSome
  hasRequested := false
  lines := []
  readyAt := 0

def busy (watch : Watch) : Bool := watch.mustList || !watch.lines.isEmpty

def fail (watch : Watch) (now : Nat) : Option WatchEvent × Watch :=
  (some .failed, { watch with readyAt := now + pause })

def restart (watch : Watch) : Watch := { watch with mustList := true, lines := [] }

/-- The watch does one thing: what it yields, and what is left to do. The beginning and the
items of a list call for nothing, so a list is yielded as its end. -/
def next (watch : Watch) (now : Nat) : Option WatchEvent × Watch :=
  if watch.mustList then
    let watch := { watch with hasRequested := true }
    if 0 < watch.listFailures then
      { watch with listFailures := watch.listFailures - 1 }.fail now
    else if watch.isListable then (some .listDone, { watch with mustList := false })
    else watch.fail now
  else
    match watch.lines with
    | [] => (none, watch)
    | line :: rest =>
        let watch := { watch with lines := rest }
        match line with
        | .changed => (some .changed, watch)
        | .removed => (some .removed, watch)
        | .bookmark => (none, watch)
        | .cutOff => (none, watch)
        | .unversioned => watch.restart.fail now
        | .refused code =>
            if code = expiredCode then watch.restart.fail now else watch.fail now
        | .unreadable => watch.fail now

end Watch

end ClusterDiscovery.Overlay

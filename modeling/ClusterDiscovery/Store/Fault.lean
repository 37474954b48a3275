/-
Faults of a cluster's API.

A fault lets some calls of its kind pass, then fails some, then is spent. The faults of a
call are tried in order; one that still lets calls pass counts this one and leaves it to
the next fault. A call that fails does nothing.
-/

import ClusterDiscovery.Effect.Basic

namespace ClusterDiscovery

inductive CallKind where
  | countConfigs
  | getSecret
  | setAuthMethod
  | listRecords
  | createRecord
  | replaceRecord
  | deleteRecord
  | listAllRecords
  | listManagedIds
  | setManaged
  | configExists
  | deleteRefresh
  deriving DecidableEq, Repr

namespace CallKind

def names : List (CallKind × String) :=
  [(.countConfigs, "count"), (.getSecret, "getSecret"), (.setAuthMethod, "setAuthMethod"),
   (.listRecords, "list"), (.createRecord, "create"), (.replaceRecord, "update"),
   (.deleteRecord, "delete"), (.listAllRecords, "listAll"), (.listManagedIds, "listManaged"),
   (.setManaged, "setManaged"), (.configExists, "configExists"),
   (.deleteRefresh, "deleteRefresh")]

def name (kind : CallKind) : String := (names.lookup kind).getD ""

def ofName? (text : String) : Option CallKind :=
  (names.find? fun entry => entry.2 == text).map Prod.fst

end CallKind

namespace ClusterCall

def kind : ClusterCall → CallKind
  | .countConfigs => .countConfigs
  | .getSecret _ _ => .getSecret
  | .setAuthMethod _ _ _ => .setAuthMethod
  | .listRecords _ => .listRecords
  | .createRecord _ => .createRecord
  | .replaceRecord _ => .replaceRecord
  | .deleteRecord _ _ => .deleteRecord
  | .listAllRecords => .listAllRecords
  | .listManagedIds => .listManagedIds
  | .setManaged _ _ => .setManaged
  | .configExists _ _ => .configExists
  | .deleteRefresh _ _ => .deleteRefresh

/-- The name of the object that a call is about; of a namespace's records, the namespace. -/
def subject : ClusterCall → String
  | .getSecret _ name => name
  | .setAuthMethod _ name _ => name
  | .listRecords space => space
  | .createRecord cluster => cluster.name
  | .replaceRecord cluster => cluster.name
  | .deleteRecord _ name => name
  | .setManaged cluster _ => cluster.name
  | .configExists _ name => name
  | .deleteRefresh _ name => name
  | .countConfigs => ""
  | .listAllRecords => ""
  | .listManagedIds => ""

end ClusterCall

structure Fault where
  kind : CallKind
  subject : Option String
  failure : Failure
  /-- Calls that still pass. -/
  passes : Nat
  /-- Calls that fail after them. -/
  fails : Nat

namespace Fault

def concerns (fault : Fault) (call : ClusterCall) : Bool :=
  fault.kind == call.kind &&
    match fault.subject with
    | none => true
    | some subject => subject == call.subject

def strike (call : ClusterCall) : List Fault → Option Failure × List Fault
  | [] => (none, [])
  | fault :: rest =>
      if fault.concerns call && fault.passes == 0 && 0 < fault.fails then
        (some fault.failure, { fault with fails := fault.fails - 1 } :: rest)
      else
        let tried :=
          if fault.concerns call then { fault with passes := fault.passes - 1 } else fault
        let struck := strike call rest
        (struck.1, tried :: struck.2)

end Fault

end ClusterDiscovery

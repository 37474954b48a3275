/-
Replies of the cluster's API.

A reply is a status and a body, or the connection failed. The body must be a text
whatever the status. A status of failure gives an error document; if the body is none,
one is made of the status. Any other status must carry the document that was asked for.
Some failures are answers: an object that is not there, a name that is taken, a record
that has changed.
-/

import ClusterDiscovery.Effect.Basic
import ClusterDiscovery.Hub.Document
import ClusterDiscovery.Overlay.Watch
import ClusterDiscovery.Text.Quoted

namespace ClusterDiscovery.Hub

open Json

inductive Reply where
  | dropped
  | received (status : Nat) (body : List UInt8)

def phrases : List (Nat × String) :=
  [(400, "Bad Request"), (401, "Unauthorized"), (402, "Payment Required"),
   (403, "Forbidden"), (404, "Not Found"), (405, "Method Not Allowed"),
   (406, "Not Acceptable"), (407, "Proxy Authentication Required"),
   (408, "Request Timeout"), (409, "Conflict"), (410, "Gone"), (411, "Length Required"),
   (412, "Precondition Failed"), (413, "Payload Too Large"), (414, "URI Too Long"),
   (415, "Unsupported Media Type"), (416, "Range Not Satisfiable"),
   (417, "Expectation Failed"), (418, "I'm a teapot"), (421, "Misdirected Request"),
   (422, "Unprocessable Entity"), (423, "Locked"), (424, "Failed Dependency"),
   (425, "Too Early"), (426, "Upgrade Required"), (428, "Precondition Required"),
   (429, "Too Many Requests"), (431, "Request Header Fields Too Large"),
   (451, "Unavailable For Legal Reasons"), (500, "Internal Server Error"),
   (501, "Not Implemented"), (502, "Bad Gateway"), (503, "Service Unavailable"),
   (504, "Gateway Timeout"), (505, "HTTP Version Not Supported"),
   (506, "Variant Also Negotiates"), (507, "Insufficient Storage"),
   (508, "Loop Detected"), (510, "Not Extended"), (511, "Network Authentication Required")]

def statusText (status : Nat) : String :=
  s!"{status} " ++ (phrases.lookup status).getD "<unknown status code>"

def isFailure (status : Nat) : Bool := 400 ≤ status && status < 600

/-- The error document in a body, or the one made of the status. -/
def errorDocument (status : Nat) (text : String) : ApiStatus :=
  ((parse? (Text.Utf8.encode text)).bind readError).getD
    ⟨statusText status, Text.quoted text, "Failed to parse error data", status⟩

def document {α : Type} (read : Reader α) : Reply → Except HubFailure α
  | .dropped => .error .service
  | .received status body =>
      match Text.Utf8.decode? body with
      | none => .error .encoding
      | some text =>
          if isFailure status then .error (.api (errorDocument status text))
          else
            match (parse? body).bind read with
            | none => .error .document
            | some value => .ok value

def found {α : Type} (read : Reader α) (reply : Reply) : Except Failure α :=
  (document read reply).mapError .hub

/-- The document in a reply, or nothing if the object is not there. -/
def foundOrNone {α : Type} (read : Reader α) (reply : Reply) : Except Failure (Option α) :=
  match document read reply with
  | .ok value => .ok (some value)
  | .error (.api status) =>
      if status.reason = "NotFound" then .ok none else .error (.hub (.api status))
  | .error failure => .error (.hub failure)

def writtenOr (code : Nat) {α : Type} (read : Reader α) (reply : Reply) :
    Except Failure Unit :=
  match found read reply with
  | .ok _ => .ok ()
  | .error failure => if failure.isApiCode code then .ok () else .error failure

/-- A write that may have lost against a concurrent one. -/
def writtenUnlessChanged {α : Type} (name : String) (read : Reader α) (reply : Reply) :
    Except Failure Unit :=
  match found read reply with
  | .ok _ => .ok ()
  | .error failure =>
      if failure.isApiCode 409 then .error (.writeConflict name) else .error failure

/-- The ids in a list of managed clusters, in ascending order and each once. -/
def idsOf (clusters : List Metadata) : List String :=
  let ids := clusters.filterMap fun metadata =>
    (metadata.label? Overlay.idLabel).filter fun id => id != ""
  (Keyed.ofList (ids.map fun id => (id, ()))).keys

def answer : (call : ClusterCall) → Reply → Except Failure call.Result
  | .countConfigs, reply => (found (readObjects readPartial) reply).map List.length
  | .getSecret _ _, reply => foundOrNone readSecret reply
  | .setAuthMethod _ _ _, reply => (found readSecret reply).map fun _ => ()
  | .listRecords _, reply => found (readObjects Cluster.readWithin) reply
  | .createRecord _, reply => writtenOr 409 Cluster.read reply
  | .replaceRecord cluster, reply => writtenUnlessChanged cluster.name Cluster.read reply
  | .deleteRecord _ _, reply => writtenOr 404 (readDeleted Cluster.read) reply
  | .listAllRecords, reply => found (readObjects Cluster.readWithin) reply
  | .listManagedIds, reply => (found (readObjects readPartial) reply).map idsOf
  | .setManaged cluster _, reply => writtenUnlessChanged cluster.name Cluster.read reply
  | .configExists _ _, reply => (foundOrNone Config.read reply).map Option.isSome
  | .deleteRefresh _ _, reply => writtenOr 404 (readDeleted readRefresh) reply

end ClusterDiscovery.Hub

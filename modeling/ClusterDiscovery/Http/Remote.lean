/-
The two remote endpoints as data.

The token endpoint has one reply. The inventory endpoint slices a list by page and size,
or has a reply for each page and empty pages after the last of them.
-/

import ClusterDiscovery.Http.Request
import ClusterDiscovery.Json.Printer

namespace ClusterDiscovery.Http

open Json

inductive Served where
  | sliced (items : List Value) (total : Nat)
  | scripted (pages : List Reply)

def Reply.json (value : Value) : Reply := .received 200 (Text.Utf8.encode value.toText)

def slice {α : Type} (items : List α) (number size : Nat) : List α :=
  (items.drop ((number - 1) * size)).take size

def Served.page (number size : Nat) : Served → Reply
  | .sliced items total =>
      let slice := slice items number size
      .json (.record [
        ("kind", .string "SubscriptionList"), ("page", .nat number),
        ("size", .nat slice.length), ("total", .nat total), ("items", .array slice)])
  | .scripted pages => (pages[number - 1]?).getD (.json (.record [("items", .array [])]))

structure Remote where
  reachable : Bool
  token : Reply
  inventory : Served

def parameter (parameters : List (String × String)) (name : String) : Nat :=
  ((parameters.lookup name).bind String.toNat?).getD 0

def Remote.reply (remote : Remote) : Request → Reply
  | .form _ _ => if remote.reachable then remote.token else .unreachable
  | .query _ _ parameters =>
      if remote.reachable then
        remote.inventory.page (parameter parameters "page") (parameter parameters "size")
      else .unreachable

end ClusterDiscovery.Http

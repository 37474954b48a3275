/-
Pages of the inventory.

A reply of success is one page of the listing. Any other reply must give a reason. A
page may report its number and sizes, but nothing depends on them.
-/

import ClusterDiscovery.Failure
import ClusterDiscovery.Http.Request
import ClusterDiscovery.Inventory.Subscription
import ClusterDiscovery.Json.Parser

namespace ClusterDiscovery.Inventory

open Json

structure Page where
  page : Nat
  size : Nat
  total : Nat
  items : List Subscription

/-- Read a page. Every field may be absent or null; an item may not be null. -/
def Page.read : Reader Page := fun value => do
  match ← fields? ["page", "size", "total", "items"] value with
  | [page, size, total, items] =>
      let natural := orNull 0 (readNatural 64)
      some {
        page := ← natural page
        size := ← natural size
        total := ← natural total
        items := ← orNull [] (readList Subscription.read) items }
  | _ => none

structure Refusal where
  code : String
  reason : String
  deriving DecidableEq

/-- Read a refusal. Both fields may be absent or null. -/
def Refusal.read : Reader Refusal := fun value => do
  match ← fields? ["code", "reason"] value with
  | [code, reason] => some ⟨← orNull "" readText code, ← orNull "" readText reason⟩
  | _ => none

def malformed (message : String) (body : List UInt8) : Failure :=
  .malformedResponse "inventory" message (Text.Utf8.decodeLossy body)

def refused (status : Nat) (body : List UInt8) : Failure :=
  match (parse? body).bind Refusal.read with
  | none => malformed s!"HTTP {status}: unparseable error body: <json error>" body
  | some refusal =>
      if refusal.reason = "" then
        malformed s!"HTTP {status}: error body lacks reason" body
      else if refusal.code = "" then .fetchTransient (some status) refusal.reason
      else .fetchTransient (some status) s!"{refusal.code}: {refusal.reason}"

def Page.ofResponse (status : Nat) (body : List UInt8) : Except Failure Page :=
  if Http.isSuccess status then
    match (parse? body).bind Page.read with
    | none => .error (malformed "<json error>" body)
    | some page => .ok page
  else .error (refused status body)

def Page.ofReply : Http.Reply → Except Failure Page
  | .unreachable => .error (.fetchTransient none "request failed: <io error>")
  | .unread status =>
      .error (.fetchTransient (some status) "failed to read body: <io error>")
  | .received status body => Page.ofResponse status body

end ClusterDiscovery.Inventory

/-
Fetching the whole inventory.

Pages are requested one after the other, all of the same size. A page with fewer items
than requested is the last one; what the server says about sizes and totals is never
trusted. A page that fails fails the listing.
-/

import ClusterDiscovery.Effect.Program
import ClusterDiscovery.Inventory.Page

namespace ClusterDiscovery.Inventory

structure ListingRequest where
  token : String
  baseUrl : String
  search : Option String
  pageSize : Nat
  deriving DecidableEq

def path : String := "/api/accounts_mgmt/v1/subscriptions"

def ListingRequest.page (request : ListingRequest) (number : Nat) : Http.Request :=
  .query (request.baseUrl ++ path) request.token
    ([("page", toString number), ("size", toString request.pageSize)] ++
      (request.search.map fun term => ("search", term)).toList)

/-- Pages are counted in 64 bits. -/
def pageLimit : Nat := UInt64.size - 1

/-- Fetch pages from a number on, at most so many. -/
def fetchFrom (request : ListingRequest) : Nat → Nat → Routine (List Subscription)
  | 0, _ => Routine.orHalt .pageLimit none
  | limit + 1, number => do
      let reply ← Routine.perform (.send (request.page number))
      let page ← Routine.ofExcept (Page.ofReply reply)
      if page.items.length < request.pageSize then pure page.items
      else
        let rest ← fetchFrom request limit (number + 1)
        pure (page.items ++ rest)

def fetch (request : ListingRequest) : Routine (List Subscription) :=
  if request.pageSize = 0 then
    Routine.ofExcept (.error (.validation "page size must be positive"))
  else fetchFrom request pageLimit 1

end ClusterDiscovery.Inventory

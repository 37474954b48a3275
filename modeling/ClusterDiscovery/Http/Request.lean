/-
Requests to the two remote endpoints, and what comes back.

A request is data, and so is its reply: nothing came back, or a status whose body could
not be read, or a status and a body.
-/

namespace ClusterDiscovery.Http

inductive Request where
  | form (url : String) (fields : List (String × String))
  | query (url bearer : String) (parameters : List (String × String))
  deriving DecidableEq

inductive Reply where
  | unreachable
  | unread (status : Nat)
  | received (status : Nat) (body : List UInt8)
  deriving DecidableEq

def isSuccess (status : Nat) : Bool := 200 ≤ status && status < 300

end ClusterDiscovery.Http

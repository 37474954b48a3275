/-
Applying a plan.

Creates come first, then updates, then deletes. The first failure ends the application:
mutations already made stay, and the rest is left to the next pass. A write that lost
against a concurrent one is reported as it is; any other failure names the mutation.
-/

import ClusterDiscovery.Effect.Program
import ClusterDiscovery.Plan

namespace ClusterDiscovery

def Failure.ofMutation (action : WriteAction) (name : String) : Failure → Failure
  | .writeConflict conflicting => .writeConflict conflicting
  | failure => .applyPartial action name failure

inductive Mutation where
  | create (cluster : Cluster)
  | update (cluster : Cluster)
  | delete (name : String)

namespace Mutation

def action : Mutation → WriteAction
  | .create _ => .create
  | .update _ => .update
  | .delete _ => .delete

def name : Mutation → String
  | .create cluster => cluster.name
  | .update cluster => cluster.name
  | .delete name => name

def perform (space : String) : Mutation → Routine Unit
  | .create cluster => Routine.call (.createRecord cluster)
  | .update cluster => Routine.call (.replaceRecord cluster)
  | .delete name => Routine.call (.deleteRecord space name)

def apply (space : String) (mutation : Mutation) : Routine Unit := do
  match ← Routine.attempt (mutation.perform space) with
  | .ok _ => Routine.measure (.recordWrite mutation.action)
  | .error failure =>
      Routine.ofExcept (.error (failure.ofMutation mutation.action mutation.name))

end Mutation

namespace Plan

/-- The mutations of a plan, in the order of their application. -/
def mutations (plan : Plan) : List Mutation :=
  plan.create.map .create ++ plan.update.map .update ++ plan.delete.map .delete

def applyAll (space : String) : List Mutation → Routine Unit
  | [] => pure ()
  | mutation :: rest => do
      mutation.apply space
      applyAll space rest

def apply (plan : Plan) (space : String) : Routine Unit := applyAll space plan.mutations

end Plan

end ClusterDiscovery

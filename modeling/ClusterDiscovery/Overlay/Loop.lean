/-
The loop of the managed overlay.

The loop waits for the first of several things: a change of the managed clusters, a nudge
by a discovery pass, a tick of the resync timer, the expiry of the retry timer, and the
order to stop. All but the last, and all but the less telling watch events, run one pass.
A pass that leaves failed writes behind arms the retry timer, which the clock must be able
to reach, and any other pass disarms it. A nudge stays pending until a pass consumes it, and
several pending nudges are one.
-/

import ClusterDiscovery.Overlay.Pass

namespace ClusterDiscovery.Overlay

inductive WatchEvent where
  | changed
  | removed
  | listBegun
  | listed
  | listDone
  | failed
  deriving DecidableEq, Repr

/-- A watch event calls for a pass. The items of a list are batched: one pass runs when
the list is complete. -/
def WatchEvent.callsForPass : WatchEvent → Bool
  | .changed => true
  | .removed => true
  | .listDone => true
  | .listBegun => false
  | .listed => false
  | .failed => false

inductive Wake where
  | watched (event : WatchEvent)
  | nudged
  | ticked
  | retried
  | cancelled
  deriving DecidableEq, Repr

def Wake.runsPass : Wake → Bool
  | .watched event => event.callsForPass
  | .nudged => true
  | .ticked => true
  | .retried => true
  | .cancelled => false

/-- The two periods of the loop and the end of the clock that it looks at, in milliseconds. -/
structure Timing where
  resync : Nat
  retry : Nat
  clockEnd : Nat
  deriving DecidableEq, Repr

structure Loop where
  permit : Bool
  /-- When the retry timer expires, while it is armed. -/
  retryAt : Option Nat
  stopped : Bool
  deriving DecidableEq, Repr

namespace Loop

def initial : Loop := ⟨false, none, false⟩

def nudge (loop : Loop) : Loop := { loop with permit := true }

/-- A wake can be taken at a time, as far as the loop knows. -/
def ready (loop : Loop) (now : Nat) : Wake → Bool
  | .nudged => !loop.stopped && loop.permit
  | .retried =>
      !loop.stopped &&
        match loop.retryAt with
        | none => false
        | some deadline => deadline ≤ now
  | _ => !loop.stopped

def take (loop : Loop) : Wake → Loop
  | .nudged => { loop with permit := false }
  | .cancelled => { loop with stopped := true }
  | _ => loop

/-- A pass has ended. A retry that would come after the end of the clock stops the loop. -/
def afterPass (timing : Timing) (finished : Nat) (summary : Summary) (loop : Loop) : Loop :=
  if 0 < summary.failed then
    if finished + timing.retry < timing.clockEnd then
      { loop with retryAt := some (finished + timing.retry) }
    else { loop with retryAt := none, stopped := true }
  else { loop with retryAt := none }

def turn (timing : Timing) (wake : Wake) (finished : Nat) (summary : Summary)
    (loop : Loop) : Loop :=
  if wake.runsPass then (loop.take wake).afterPass timing finished summary
  else loop.take wake

end Loop

end ClusterDiscovery.Overlay

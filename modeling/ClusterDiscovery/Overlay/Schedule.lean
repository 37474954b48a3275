/-
The loop of the overlay in the course of time.

Time moves from one due thing to the next: a tick of the resync timer, a pending nudge, a
watch that has something to do, the expiry of the retry timer. Passes take no time. What
is due first is taken first.
-/

import ClusterDiscovery.Overlay.Watch
import ClusterDiscovery.World.Basic

namespace ClusterDiscovery.Overlay

structure Schedule where
  timing : Timing
  now : Nat
  /-- When the resync timer ticks next. -/
  nextTick : Nat
  loop : Loop
  watch : Watch
  world : World

namespace Schedule

/-- The start: the resync timer ticks at once and the watch has yet to list. Without a period
the timer cannot be set, and the loop has stopped before it begins. -/
def start (timing : Timing) (watch : Watch) (world : World) : Schedule where
  timing := timing
  now := 0
  nextTick := 0
  loop := { Loop.initial with stopped := timing.resync == 0 }
  watch := watch
  world := world

inductive Due where
  | tick
  | nudge
  | watch
  | retry

def dueTimes (schedule : Schedule) : List (Nat × Due) :=
  [(schedule.nextTick, .tick)] ++
    (if schedule.loop.permit then [(schedule.now, .nudge)] else []) ++
    (if schedule.watch.busy then [(schedule.watch.readyAt, .watch)] else []) ++
    (schedule.loop.retryAt.map fun deadline => (deadline, Due.retry)).toList

def earlier (found : Option (Nat × Due)) (candidate : Nat × Due) : Option (Nat × Due) :=
  match found with
  | none => some candidate
  | some best => if candidate.1 < best.1 then some candidate else some best

def firstDue? (schedule : Schedule) : Option (Nat × Due) :=
  schedule.dueTimes.foldl earlier none

def wake (schedule : Schedule) (taken : Wake) : Schedule :=
  if taken.runsPass then
    let ran := Overlay.pass.run World.handle schedule.world
    let summary := match ran.1 with
      | .ok summary => summary
      | .error _ => .nothing
    { schedule with
      world := ran.2
      loop := schedule.loop.turn schedule.timing taken schedule.now summary }
  else
    { schedule with
      loop := schedule.loop.turn schedule.timing taken schedule.now .nothing }

def happen (schedule : Schedule) : Due → Schedule
  | .tick =>
      { schedule with nextTick := schedule.nextTick + schedule.timing.resync }.wake .ticked
  | .nudge => schedule.wake .nudged
  | .retry => schedule.wake .retried
  | .watch =>
      let (event, watch) := schedule.watch.next schedule.now
      let schedule := { schedule with watch := watch }
      match event with
      | none => schedule
      | some event => schedule.wake (.watched event)

/-- Let time pass up to a target; at most so many things happen. -/
def passTime (schedule : Schedule) (target : Nat) : Nat → Schedule
  | 0 => { schedule with now := max schedule.now target }
  | fuel + 1 =>
      if schedule.loop.stopped then { schedule with now := max schedule.now target }
      else
        match schedule.firstDue? with
        | none => { schedule with now := max schedule.now target }
        | some (time, due) =>
            if time ≤ target then
              passTime ({ schedule with now := max schedule.now time }.happen due) target fuel
            else { schedule with now := max schedule.now target }

/-- More things than can happen within so many milliseconds. -/
def plenty (millis : Nat) : Nat := 4 * millis + 1000000

def wait (schedule : Schedule) (millis : Nat) : Schedule :=
  schedule.passTime (schedule.now + millis) (plenty millis)

end Schedule

end ClusterDiscovery.Overlay

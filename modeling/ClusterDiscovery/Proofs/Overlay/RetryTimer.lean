/-
The retry timer of the overlay's loop.

The loop may be woken by anything in any order, and its passes may be answered in any way. While
it runs, the retry timer is armed exactly if its last pass left a failed write behind, and then
for the retry delay after that pass. So a failed write is not forgotten as long as every later
pass reads its lists and leaves a failed write behind as well; a pass that cannot read a list
leaves nothing behind, and disarms the timer.
-/

import ClusterDiscovery.Overlay.Schedule
import ClusterDiscovery.Proofs.Overlay.Tally
import ClusterDiscovery.Proofs.World.Keeper

namespace ClusterDiscovery.Overlay

/-- A pass that the loop has run: when it ended, and what it performed. -/
structure Past where
  finished : Nat
  events : List Event

/-- The pass has read its lists and left nothing behind. -/
def Past.Clean (past : Past) : Prop := ¬ Unread past.events ∧ ¬ LeavesBehind past.events

/-- Some pass has left a failed write behind and no later one was clean; the last pass comes
first. -/
def Owing (passes : List Past) : Prop :=
  ∃ later pass earlier, passes = later ++ pass :: earlier ∧ LeavesBehind pass.events ∧
    ∀ other ∈ later, ¬ other.Clean

/-- When a retry is due, by the last pass. -/
def retryDue? (timing : Timing) : List Past → Option Nat
  | [] => none
  | last :: _ =>
      if 0 < (marks last.events).countP Mark.lost then some (last.finished + timing.retry) else none

variable {σ : Type} {handler : Handler σ} {timing : Timing} {loop : Loop} {now : Nat} {state : σ}
  {passes : List Past}

/-- What the loop can come to: its state, the time, the world, and the passes that it has run,
the last one first. Between two wakes time passes and anything may happen to the world. -/
inductive Reaches (handler : Handler σ) (timing : Timing) :
    Loop → Nat → σ → List Past → Prop where
  | started (now : Nat) (state : σ) : Reaches handler timing .initial now state []
  | waited {loop : Loop} {now later : Nat} {state : σ} {passes : List Past}
      (before : Reaches handler timing loop now state passes) (notEarlier : now ≤ later)
      (changed : σ) : Reaches handler timing loop later changed passes
  | nudged {loop : Loop} {now : Nat} {state : σ} {passes : List Past}
      (before : Reaches handler timing loop now state passes) :
      Reaches handler timing loop.nudge now state passes
  | idled {loop : Loop} {now : Nat} {state : σ} {passes : List Past} {wake : Wake}
      (before : Reaches handler timing loop now state passes)
      (ready : loop.ready now wake = true) (idle : wake.runsPass = false) :
      Reaches handler timing (loop.turn timing wake now .nothing) now state passes
  | ran {loop : Loop} {now finished : Nat} {state reached : σ} {passes : List Past} {wake : Wake}
      {summary : Summary} (before : Reaches handler timing loop now state passes)
      (ready : loop.ready now wake = true) (runs : wake.runsPass = true)
      (ended : pass.run handler state = (.ok summary, reached)) (notEarlier : now ≤ finished) :
      Reaches handler timing (loop.turn timing wake finished summary) finished reached
        (⟨finished, pass.trace handler state⟩ :: passes)

theorem retryDue?_eq_some_iff {deadline : Nat} :
    retryDue? timing passes = some deadline ↔ ∃ last earlier, passes = last :: earlier ∧
      LeavesBehind last.events ∧ deadline = last.finished + timing.retry := by
  cases passes with
  | nil => simp [retryDue?]
  | cons last earlier =>
      unfold retryDue?
      rw [Option.ite_none_right_eq_some, ← leavesBehind_iff, Option.some.injEq]
      constructor
      · rintro ⟨behind, rfl⟩
        exact ⟨last, earlier, rfl, behind, rfl⟩
      · rintro ⟨_, _, same, behind, rfl⟩
        cases same
        exact ⟨behind, rfl⟩

/-- A wake that runs no pass and does not stop the loop leaves it as it was. -/
theorem Loop.turn_of_idle {wake : Wake} (idle : wake.runsPass = false)
    (running : (loop.turn timing wake now .nothing).stopped = false) :
    loop.turn timing wake now .nothing = loop := by
  unfold Loop.turn at running ⊢
  rw [idle, if_neg Bool.false_ne_true] at running ⊢
  cases wake with
  | watched event => rfl
  | cancelled => cases running
  | nudged | ticked | retried => cases idle

/-- After a pass the timer stands as the pass has left it, unless the loop has stopped. -/
theorem Loop.retryAt_turn {wake : Wake} {finished : Nat} {summary : Summary}
    (runs : wake.runsPass = true)
    (running : (loop.turn timing wake finished summary).stopped = false) :
    (loop.turn timing wake finished summary).retryAt =
      if 0 < summary.failed then some (finished + timing.retry) else none := by
  unfold Loop.turn at running ⊢
  rw [if_pos runs] at running ⊢
  unfold Loop.afterPass at running ⊢
  by_cases behind : 0 < summary.failed
  · by_cases inTime : finished + timing.retry < timing.clockEnd
    · rw [if_pos behind, if_pos inTime, if_pos behind]
    · rw [if_pos behind, if_neg inTime] at running
      cases running
  · rw [if_neg behind, if_neg behind]

theorem Reaches.retryAt_eq (reaches : Reaches handler timing loop now state passes)
    (running : loop.stopped = false) : loop.retryAt = retryDue? timing passes := by
  induction reaches with
  | started => rfl
  | waited _before _notEarlier _changed ih => exact ih running
  | nudged _before ih => exact ih running
  | idled _before _ready idle ih =>
      have same := Loop.turn_of_idle idle running
      rw [same] at running ⊢
      exact ih running
  | @ran loop now finished state reached passes wake summary before ready runs ended notEarlier =>
      obtain ⟨counted, _, same, behind⟩ := pass_counts handler state
      rw [ended] at same
      cases same
      rw [Loop.retryAt_turn runs running]
      unfold retryDue?
      simp only [behind, leavesBehind_iff]

/-- While the loop runs, its retry timer is armed exactly if the last pass left a failed write
behind, for the retry delay after that pass. So it is armed as long as some pass has left one
behind and since then every pass has read its lists and none was clean. -/
theorem retry_armed_exactly (reaches : Reaches handler timing loop now state passes)
    (running : loop.stopped = false) :
    (∀ deadline, loop.retryAt = some deadline ↔ ∃ last earlier, passes = last :: earlier ∧
      LeavesBehind last.events ∧ deadline = last.finished + timing.retry) ∧
    (∀ later pass earlier, passes = later ++ pass :: earlier → LeavesBehind pass.events →
      (∀ other ∈ later, ¬ other.Clean ∧ ¬ Unread other.events) →
        ∃ last others, passes = last :: others ∧
          loop.retryAt = some (last.finished + timing.retry)) := by
  rw [reaches.retryAt_eq running]
  refine ⟨fun deadline => retryDue?_eq_some_iff, ?_⟩
  intro later pass earlier same behind since
  have lastBehind : ∃ last others, passes = last :: others ∧ LeavesBehind last.events := by
    cases later with
    | nil => exact ⟨pass, earlier, same, behind⟩
    | cons last rest =>
        obtain ⟨notClean, read⟩ := since last List.mem_cons_self
        refine ⟨last, rest ++ pass :: earlier, same, ?_⟩
        by_contra clean
        exact notClean ⟨read, clean⟩
  obtain ⟨last, others, isLast, left⟩ := lastBehind
  exact ⟨last, others, isLast, retryDue?_eq_some_iff.mpr ⟨last, others, isLast, left, rfl⟩⟩

theorem Loop.ready_retried {deadline : Nat} (running : loop.stopped = false)
    (armed : loop.retryAt = some deadline) (past : deadline ≤ now) :
    loop.ready now .retried = true := by
  unfold Loop.ready
  simp [running, armed, past]

namespace Schedule

variable {schedule : Schedule} {taken : Wake}

def Attainable (schedule : Schedule) : Prop :=
  ∃ passes, Reaches World.handle schedule.timing schedule.loop schedule.now schedule.world passes

theorem attainable_start {timing : Timing} (period : 0 < timing.resync) (watch : Watch)
    (world : World) : (start timing watch world).Attainable := by
  have running : (timing.resync == 0) = false := beq_eq_false_iff_ne.mpr (Nat.ne_of_gt period)
  have initial : (start timing watch world).loop = Loop.initial := by
    unfold start
    rw [running]
    rfl
  unfold Attainable
  rw [initial]
  exact ⟨[], .started _ _⟩

theorem Attainable.wait_until (attainable : schedule.Attainable) (target : Nat) :
    { schedule with now := max schedule.now target }.Attainable := by
  obtain ⟨passes, reaches⟩ := attainable
  exact ⟨passes, reaches.waited (Nat.le_max_left _ _) _⟩

theorem Attainable.wake (attainable : schedule.Attainable)
    (ready : schedule.loop.ready schedule.now taken = true) :
    (schedule.wake taken).Attainable := by
  obtain ⟨passes, reaches⟩ := attainable
  unfold Schedule.wake
  split
  · rename_i runs
    obtain ⟨summary, reached, ended, _counted⟩ := pass_counts World.handle schedule.world
    rw [ended]
    exact ⟨_, reaches.ran ready runs ended (Nat.le_refl _)⟩
  · rename_i idle
    exact ⟨_, reaches.idled ready (eq_false_of_ne_true idle)⟩

private theorem foldl_earlier (times : List (Nat × Due)) (best : Nat × Due) :
    ∃ found ∈ best :: times, times.foldl earlier (some best) = some found := by
  induction times generalizing best with
  | nil => exact ⟨best, List.mem_cons_self, rfl⟩
  | cons candidate rest ih =>
      have next : earlier (some best) candidate = some candidate ∨
          earlier (some best) candidate = some best := by
        change (if candidate.1 < best.1 then some candidate else some best) = _ ∨
          (if candidate.1 < best.1 then some candidate else some best) = _
        by_cases sooner : candidate.1 < best.1
        · exact Or.inl (if_pos sooner)
        · exact Or.inr (if_neg sooner)
      rcases next with same | same <;> rw [List.foldl_cons, same]
      · obtain ⟨found, member, first⟩ := ih candidate
        exact ⟨found, List.mem_cons_of_mem _ member, first⟩
      · obtain ⟨found, member, first⟩ := ih best
        rcases List.mem_cons.mp member with rfl | later
        · exact ⟨found, List.mem_cons_self, first⟩
        · exact ⟨found, List.mem_cons_of_mem _ (List.mem_cons_of_mem _ later), first⟩

theorem mem_dueTimes_of_firstDue? {time : Nat} {due : Due}
    (first : schedule.firstDue? = some (time, due)) : (time, due) ∈ schedule.dueTimes := by
  unfold firstDue? at first
  cases times : schedule.dueTimes with
  | nil =>
      rw [times] at first
      cases first
  | cons best rest =>
      rw [times, List.foldl_cons] at first
      obtain ⟨found, member, same⟩ := foldl_earlier rest best
      cases (same.symm.trans first)
      exact member

def Ripe (schedule : Schedule) : Due → Prop
  | .nudge => schedule.loop.permit = true
  | .retry => ∃ deadline, schedule.loop.retryAt = some deadline ∧ deadline ≤ schedule.now
  | _ => True

theorem ripe_of_firstDue? {time : Nat} {due : Due}
    (first : schedule.firstDue? = some (time, due)) :
    { schedule with now := max schedule.now time }.Ripe due := by
  have isDue := mem_dueTimes_of_firstDue? first
  cases due with
  | tick | watch => trivial
  | nudge =>
      simp only [dueTimes, List.mem_append, List.mem_ite_nil_right, List.mem_singleton,
        Option.mem_toList, Option.map_eq_some_iff, Prod.mk.injEq, reduceCtorEq, and_false,
        exists_false, or_false, false_or] at isDue
      exact isDue.1
  | retry =>
      have armed : schedule.loop.retryAt = some time := by
        simpa [dueTimes] using isDue
      exact ⟨time, armed, Nat.le_max_right _ _⟩

theorem Attainable.happen (attainable : schedule.Attainable) {due : Due}
    (running : schedule.loop.stopped = false) (ripe : schedule.Ripe due) :
    (schedule.happen due).Attainable := by
  have always : (!schedule.loop.stopped) = true := by
    rw [running]
    rfl
  cases due with
  | tick =>
      have moved : { schedule with
        nextTick := schedule.nextTick + schedule.timing.resync }.Attainable := attainable
      exact moved.wake always
  | nudge =>
      apply attainable.wake
      change (!schedule.loop.stopped && schedule.loop.permit) = true
      rw [always, show schedule.loop.permit = true from ripe]
      rfl
  | watch =>
      unfold Schedule.happen
      generalize schedule.watch.next schedule.now = went
      rcases went with ⟨event, watch⟩
      have moved : { schedule with watch := watch }.Attainable := attainable
      cases event with
      | none => exact moved
      | some event => exact moved.wake always
  | retry =>
      obtain ⟨deadline, armed, past⟩ := ripe
      apply attainable.wake
      exact Loop.ready_retried running armed past

/-- The loop of a schedule stays within what it can come to, however long it waits. -/
theorem Attainable.passTime (attainable : schedule.Attainable) (target fuel : Nat) :
    (schedule.passTime target fuel).Attainable := by
  induction fuel generalizing schedule with
  | zero => exact attainable.wait_until target
  | succ fuel ih =>
      unfold Schedule.passTime
      split
      · exact attainable.wait_until target
      · rename_i running
        split
        · exact attainable.wait_until target
        · rename_i time due first
          split
          · exact ih ((attainable.wait_until time).happen (eq_false_of_ne_true running)
              (ripe_of_firstDue? first))
          · exact attainable.wait_until target

end Schedule

end ClusterDiscovery.Overlay

namespace ClusterDiscovery

namespace Sample

def timing : Overlay.Timing := ⟨1000000, 30000, 9223372036854775808 * 1000⟩

def stale : World :=
  { world [record "a"] with
    store := { (world [record "a"]).store with managedIds := ["a"] }
    faults := [⟨.setManaged, none, .hub .service, 0, 1⟩] }

def unlisted : World :=
  { (Overlay.pass.run World.handle stale).2 with
    faults := [⟨.listAllRecords, none, .hub .service, 0, 1⟩] }

theorem reaches_stale :
    Overlay.Reaches World.handle timing ⟨false, some 30000, false⟩ 0
      (Overlay.pass.run World.handle stale).2
      [⟨0, Overlay.pass.trace World.handle stale⟩] := by
  have ticked : Overlay.Loop.initial.ready 0 .ticked = true := rfl
  have failed : (Overlay.pass.run World.handle stale).1 = .ok ⟨1, 0, 1⟩ := rfl
  have turned : Overlay.Loop.initial.turn timing .ticked 0 ⟨1, 0, 1⟩ =
      ⟨false, some 30000, false⟩ := by decide +kernel
  rw [← turned]
  exact (Overlay.Reaches.started 0 stale).ran ticked rfl (Prod.ext failed rfl) (Nat.le_refl 0)

theorem leavesBehind_stale : Overlay.LeavesBehind (Overlay.pass.trace World.handle stale) := by
  rw [Overlay.leavesBehind_iff]
  decide +kernel

end Sample

namespace Overlay

theorem retry_armed_exactly_sample :
    ∃ loop world passes, Reaches World.handle Sample.timing loop 0 world passes ∧
      loop.stopped = false ∧ Owing passes ∧ loop.retryAt = some 30000 := by
  obtain ⟨_, _, same, armed⟩ := (retry_armed_exactly Sample.reaches_stale rfl).2 [] _ [] rfl
    Sample.leavesBehind_stale (fun _ absent => absurd absent List.not_mem_nil)
  cases same
  refine ⟨_, _, _, Sample.reaches_stale, rfl, ?_, armed⟩
  refine ⟨[], _, [], rfl, Sample.leavesBehind_stale, ?_⟩
  intro other absent
  cases absent

/-- A nudge before the retry runs a pass that cannot list the records. It leaves nothing behind,
and the failed write is not tried again before the next tick. -/
theorem unread_pass_disarms_retry :
    ∃ loop world passes, Reaches World.handle Sample.timing loop 0 world passes ∧
      loop.stopped = false ∧ Owing passes ∧ loop.retryAt = none := by
  have unread : pass.trace World.handle Sample.unlisted =
      [⟨.cluster .listAllRecords, Except.error (.hub .service)⟩] := rfl
  have nudged : Reaches World.handle Sample.timing ⟨true, some 30000, false⟩ 0 Sample.unlisted
      [⟨0, pass.trace World.handle Sample.stale⟩] :=
    (Sample.reaches_stale.waited (Nat.le_refl 0) Sample.unlisted).nudged
  have ran : Reaches World.handle Sample.timing ⟨false, none, false⟩ 0
      (pass.run World.handle Sample.unlisted).2
      [⟨0, pass.trace World.handle Sample.unlisted⟩,
        ⟨0, pass.trace World.handle Sample.stale⟩] := by
    have permitted : Loop.ready ⟨true, some 30000, false⟩ 0 .nudged = true := rfl
    exact nudged.ran permitted rfl (Prod.ext rfl rfl) (Nat.le_refl 0)
  refine ⟨_, _, _, ran, rfl, ?_, rfl⟩
  refine ⟨[_], _, [], rfl, Sample.leavesBehind_stale, ?_⟩
  intro other member clean
  rw [List.mem_singleton.mp member] at clean
  apply clean.1
  rw [unread]
  exact ⟨_, List.mem_cons_self, rfl, Or.inl rfl⟩

end Overlay

end ClusterDiscovery

/-
Delivery of refresh signals.

An attempt asks for the configuration of the signal's namespace, queues a pass of it if it is
there, and deletes the signal last. So whatever fails in whichever attempt, a signal is deleted
only after its pass was queued or no configuration was found, and it stays until then. Every
attempt that finds the configuration and an open queue queues one pass, and no other does.
-/

import ClusterDiscovery.Refresh
import ClusterDiscovery.Proofs.Program.Execution
import ClusterDiscovery.Proofs.World.Keeper

namespace ClusterDiscovery.Refresh

open Config (conventionalName)

def removal (space name : String) : Event :=
  ⟨.cluster (.deleteRefresh space name), Except.ok ()⟩

def finds : Event → Bool
  | ⟨.cluster (.configExists _ _), answer⟩ =>
      match answer with
      | .ok known => known
      | .error _ => false
  | _ => false

def queues : Event → Bool
  | ⟨.trigger _ _, accepted⟩ => accepted
  | _ => false

/-- How an attempt goes, by whether the queue is open when the configuration has been looked
up: what it performs, and how it ends. -/
inductive Course (space name : String) (isOpen : Bool) :
    List Event → Except Failure Action → Prop where
  | unknown {failure : Failure} :
      Course space name isOpen
        [⟨.cluster (.configExists space conventionalName), Except.error failure⟩] (.error failure)
  | discarded (answer : Except Failure Unit) :
      Course space name isOpen
        [⟨.cluster (.configExists space conventionalName), Except.ok false⟩,
          ⟨.cluster (.deleteRefresh space name), answer⟩] (answer.map fun _ => .awaitChange)
  | refused {failure : Failure} (closed : isOpen = false) :
      Course space name isOpen
        [⟨.cluster (.configExists space conventionalName), Except.ok true⟩,
          ⟨.trigger space conventionalName, false⟩] (.error failure)
  | dispatched (opened : isOpen = true) (answer : Except Failure Unit) :
      Course space name isOpen
        [⟨.cluster (.configExists space conventionalName), Except.ok true⟩,
          ⟨.trigger space conventionalName, true⟩,
          ⟨.cluster (.deleteRefresh space name), answer⟩] (answer.map fun _ => .awaitChange)

namespace Course

variable {space name : String} {isOpen : Bool} {events : List Event}
  {result : Except Failure Action}

/-- The signal is deleted last, after its pass was queued or no configuration was found. -/
theorem justified (course : Course space name isOpen events result) {before after : List Event}
    (deletes : events = before ++ removal space name :: after) :
    ⟨.cluster (.configExists space conventionalName), Except.ok false⟩ ∈ before ∨
      ⟨.trigger space conventionalName, true⟩ ∈ before := by
  cases before with
  | nil =>
      cases course <;> cases deletes
  | cons first rest =>
      cases course with
      | unknown =>
          obtain ⟨_same, later⟩ := List.cons.inj deletes
          cases rest <;> cases later
      | discarded answer =>
          obtain ⟨same, _later⟩ := List.cons.inj deletes
          exact Or.inl (same ▸ List.mem_cons_self)
      | refused closed =>
          obtain ⟨_same, later⟩ := List.cons.inj deletes
          cases rest with
          | nil => cases later
          | cons second rest =>
              obtain ⟨_same, none⟩ := List.cons.inj later
              cases rest <;> cases none
      | dispatched opened answer =>
          obtain ⟨_same, later⟩ := List.cons.inj deletes
          cases rest with
          | nil => cases later
          | cons second rest =>
              obtain ⟨same, _none⟩ := List.cons.inj later
              exact Or.inr (same ▸ List.mem_cons_of_mem _ List.mem_cons_self)

/-- An attempt succeeds exactly if the signal is gone. -/
theorem succeeds_iff (course : Course space name isOpen events result) :
    (∃ action, result = .ok action) ↔ removal space name ∈ events := by
  constructor
  · rintro ⟨action, same⟩
    cases course with
    | unknown | refused => cases same
    | discarded answer =>
        cases answer with
        | error failure => cases same
        | ok done => exact List.mem_cons_of_mem _ List.mem_cons_self
    | dispatched opened answer =>
        cases answer with
        | error failure => cases same
        | ok done => exact List.mem_cons_of_mem _ (List.mem_cons_of_mem _ List.mem_cons_self)
  · intro member
    cases course with
    | unknown => cases List.mem_singleton.mp member
    | refused closed =>
        rcases List.mem_cons.mp member with first | second
        · cases first
        · cases List.mem_singleton.mp second
    | discarded answer =>
        rcases List.mem_cons.mp member with first | second
        · cases first
        · cases List.mem_singleton.mp second
          exact ⟨_, rfl⟩
    | dispatched opened answer =>
        rcases List.mem_cons.mp member with first | later
        · cases first
        rcases List.mem_cons.mp later with second | third
        · cases second
        · cases List.mem_singleton.mp third
          exact ⟨_, rfl⟩

/-- A pass is queued once, exactly where the configuration was found and the queue is open. -/
theorem queued (course : Course space name isOpen events result) :
    events.countP queues = (events.any finds && isOpen).toNat := by
  cases course with
  | unknown => rfl
  | discarded answer => rfl
  | refused closed =>
      rw [closed]
      rfl
  | dispatched opened answer =>
      rw [opened]
      rfl

theorem triggers (course : Course space name isOpen events result) {place target : String}
    {accepted : Bool} (asks : ⟨.trigger place target, accepted⟩ ∈ events) :
    place = space ∧ target = conventionalName ∧ events.any finds = true := by
  cases course with
  | unknown => cases List.mem_singleton.mp asks
  | discarded answer =>
      rcases List.mem_cons.mp asks with first | second
      · cases first
      · cases List.mem_singleton.mp second
  | refused closed =>
      rcases List.mem_cons.mp asks with first | second
      · cases first
      · cases List.mem_singleton.mp second
        exact ⟨rfl, rfl, rfl⟩
  | dispatched opened answer =>
      rcases List.mem_cons.mp asks with first | later
      · cases first
      rcases List.mem_cons.mp later with second | third
      · cases second
        exact ⟨rfl, rfl, rfl⟩
      · cases List.mem_singleton.mp third

end Course

variable {σ : Type} {handler : Handler σ} {present isOpen : σ → Bool} {space : String}
  {signal : Metadata} {state final start : σ}

/-- The handler keeps a signal and a queue. Only a deletion that succeeds makes the signal go,
and the queue accepts a pass exactly while it is open: one that is full is waited for. -/
structure KeepsSignal (handler : Handler σ) (space name : String)
    (present isOpen : σ → Bool) : Prop where
  removed : ∀ state, (handler (.cluster (.deleteRefresh space name)) state).1 = Except.ok () →
    present (handler (.cluster (.deleteRefresh space name)) state).2 = false
  kept : ∀ effect state, (⟨effect, (handler effect state).1⟩ : Event) ≠ removal space name →
    present (handler effect state).2 = present state
  accepts : ∀ state, (handler (.trigger space conventionalName) state).1 = isOpen state

def opensTo (handler : Handler σ) (isOpen : σ → Bool) (space : String) (state : σ) : Bool :=
  isOpen (handler (.cluster (.configExists space conventionalName)) state).2

def deletion (space name : String) : Program (Except Failure Action) :=
  .perform (.cluster (.deleteRefresh space name)) fun answer =>
    .done (Except.map (fun _ => Action.awaitChange) answer)

private theorem run_deletion (space name : String) :
    ExceptT.run (do
      Routine.call (.deleteRefresh space name)
      pure Action.awaitChange : Routine Action) = deletion space name := by
  change Program.perform _ _ = Program.perform _ _
  congr 1
  funext removed
  cases removed <;> rfl

theorem run_reconcile (inSpace : signal.space = some space) :
    ExceptT.run (reconcile signal) =
      .perform (.cluster (.configExists space conventionalName)) fun answer =>
        match (answer : Except Failure Bool) with
        | .error failure => .done (.error failure)
        | .ok false => deletion space signal.knownName
        | .ok true => .perform (.trigger space conventionalName) fun accepted =>
            match (accepted : Bool) with
            | true => deletion space signal.knownName
            | false => .done
                (.error (.internal "discovery controller is not accepting refreshes")) := by
  unfold reconcile
  rw [inSpace]
  change Program.perform _ _ = Program.perform _ _
  congr 1
  funext answer
  rcases (answer : Except Failure Bool) with failure | known
  · rfl
  cases known with
  | false => exact run_deletion space signal.knownName
  | true =>
      change Program.perform _ _ = Program.perform _ _
      congr 1
      funext accepted
      cases (accepted : Bool) with
      | false => rfl
      | true => exact run_deletion space signal.knownName

/-- What the deletion at the end of an attempt makes of the signal. -/
theorem present_deletion {name : String} (keeps : KeepsSignal handler space name present isOpen)
    (state : σ) :
    ∃ answer : Except Failure Unit,
      (deletion space name).trace handler state = [⟨.cluster (.deleteRefresh space name), answer⟩] ∧
      ∃ reached, (deletion space name).run handler state =
          (.ok (answer.map fun _ => .awaitChange), reached) ∧
        present reached = (present state && !(answer.map fun _ => Action.awaitChange).toBool) := by
  refine ⟨(handler (.cluster (.deleteRefresh space name)) state).1, rfl, _, rfl, ?_⟩
  cases answered : (handler (.cluster (.deleteRefresh space name)) state).1 with
  | error failure =>
      have still := keeps.kept (.cluster (.deleteRefresh space name)) state
      rw [answered] at still
      have other : (⟨.cluster (.deleteRefresh space name), Except.error failure⟩ : Event) ≠
          removal space name := by
        intro same
        cases same
      exact (still other).trans (Bool.and_true _).symm
  | ok done =>
      refine (keeps.removed state answered).trans ?_
      exact (Bool.and_false _).symm

theorem reconcile_goes (keeps : KeepsSignal handler space signal.knownName present isOpen)
    (inSpace : signal.space = some space) (state : σ) :
    ∃ result reached, (reconcile signal).execute handler state = (.ok result, reached) ∧
      Course space signal.knownName (opensTo handler isOpen space state)
        ((reconcile signal).trace handler state) result ∧
      present reached = (present state && !result.toBool) := by
  unfold Routine.execute Routine.trace
  rw [run_reconcile inSpace]
  have asked := keeps.kept (.cluster (.configExists space conventionalName)) state
    (by intro same; cases same)
  simp only [Program.run, Program.trace]
  cases answered : (handler (.cluster (.configExists space conventionalName)) state).1 with
  | error failure => exact ⟨_, _, rfl, .unknown, asked.trans (Bool.and_true _).symm⟩
  | ok known =>
      generalize opened : (handler (.cluster (.configExists space conventionalName)) state).2 =
        next at asked ⊢
      have atQueue : opensTo handler isOpen space state = isOpen next := congrArg isOpen opened
      cases (known : Bool) with
      | false =>
          obtain ⟨answer, sameTrace, reached, sameRun, left⟩ := present_deletion keeps next
          simp only
          rw [sameTrace, sameRun]
          exact ⟨_, _, rfl, .discarded answer, asked ▸ left⟩
      | true =>
          have queued := keeps.kept (.trigger space conventionalName) next
            (by intro same; cases same)
          have accepts := keeps.accepts next
          rw [← atQueue] at accepts
          simp only [Program.run, Program.trace]
          cases accepted : (handler (.trigger space conventionalName) next).1 with
          | false =>
              rw [accepted] at accepts
              exact ⟨_, _, rfl, .refused accepts.symm,
                (queued.trans asked).trans (Bool.and_true _).symm⟩
          | true =>
              rw [accepted] at accepts
              obtain ⟨answer, sameTrace, reached, sameRun, left⟩ := present_deletion keeps
                (handler (.trigger space conventionalName) next).2
              simp only
              rw [sameTrace, sameRun]
              exact ⟨_, _, rfl, .dispatched accepts.symm answer, queued.trans asked ▸ left⟩

structure Attempt (σ : Type) where
  start : σ
  events : List Event
  result : Except Failure Action

def Attempt.followUp (retrySecs : Nat) (attempt : Attempt σ) : Action :=
  match attempt.result with
  | .ok action => action
  | .error _ => afterFailure retrySecs

/-- Attempts on a signal, the last one first. Between two of them anything may happen that
leaves the signal where it is. -/
inductive Attempts (handler : Handler σ) (signal : Metadata) (present : σ → Bool) (start : σ) :
    List (Attempt σ) → σ → Prop where
  | none : Attempts handler signal present start [] start
  | meanwhile {attempts : List (Attempt σ)} {state : σ}
      (before : Attempts handler signal present start attempts state) {changed : σ}
      (same : present changed = present state) :
      Attempts handler signal present start attempts changed
  | tried {attempts : List (Attempt σ)} {state reached : σ} {result : Except Failure Action}
      (before : Attempts handler signal present start attempts state)
      (ended : (reconcile signal).execute handler state = (.ok result, reached)) :
      Attempts handler signal present start
        (⟨state, (reconcile signal).trace handler state, result⟩ :: attempts) reached

theorem Attempts.courses (keeps : KeepsSignal handler space signal.knownName present isOpen)
    (inSpace : signal.space = some space) {attempts : List (Attempt σ)}
    (run : Attempts handler signal present start attempts final) {attempt : Attempt σ}
    (member : attempt ∈ attempts) :
    Course space signal.knownName (opensTo handler isOpen space attempt.start) attempt.events
      attempt.result := by
  induction run with
  | none => cases member
  | meanwhile _before _same ih => exact ih member
  | @tried attempts state reached result before ended ih =>
      rcases List.mem_cons.mp member with rfl | earlier
      · obtain ⟨_, _, ended', course, _left⟩ := reconcile_goes keeps inSpace state
        rw [ended] at ended'
        cases ended'
        exact course
      · exact ih earlier

/-- The signal is where it was, unless an attempt has succeeded. -/
theorem Attempts.present_eq (keeps : KeepsSignal handler space signal.knownName present isOpen)
    (inSpace : signal.space = some space) {attempts : List (Attempt σ)}
    (run : Attempts handler signal present start attempts final) :
    present final = (present start && attempts.all fun attempt => !attempt.result.toBool) := by
  induction run with
  | none => exact (Bool.and_true _).symm
  | meanwhile _before same ih => exact same.trans ih
  | @tried attempts state reached result before ended ih =>
      obtain ⟨_, _, ended', _course, left⟩ := reconcile_goes keeps inSpace state
      rw [ended] at ended'
      cases ended'
      rw [left, ih, List.all_cons, Bool.and_assoc, Bool.and_comm (!result.toBool)]

theorem Attempts.queued (keeps : KeepsSignal handler space signal.knownName present isOpen)
    (inSpace : signal.space = some space) {attempts : List (Attempt σ)}
    (run : Attempts handler signal present start attempts final) :
    (attempts.flatMap Attempt.events).countP queues = attempts.countP fun attempt =>
      attempt.events.any finds && opensTo handler isOpen space attempt.start := by
  have each (attempt : Attempt σ) (member : attempt ∈ attempts) :=
    (run.courses keeps inSpace member).queued
  clear run
  induction attempts with
  | nil => rfl
  | cons attempt rest ih =>
      have rest := ih fun other member => each other (List.mem_cons_of_mem _ member)
      rw [List.flatMap_cons, List.countP_append, rest, each attempt List.mem_cons_self,
        List.countP_cons, Nat.add_comm]
      cases attempt.events.any finds && opensTo handler isOpen space attempt.start <;> rfl

/-- What a run of attempts on a signal comes to. -/
structure Delivered (handler : Handler σ) (space name : String) (present isOpen : σ → Bool)
    (start : σ) (attempts : List (Attempt σ)) (final : σ) : Prop where
  justified : ∀ attempt ∈ attempts, ∀ before after,
    attempt.events = before ++ removal space name :: after →
      ⟨.cluster (.configExists space conventionalName), Except.ok false⟩ ∈ before ∨
        ⟨.trigger space conventionalName, true⟩ ∈ before
  succeeds : ∀ attempt ∈ attempts,
    (∃ action, attempt.result = .ok action) ↔ removal space name ∈ attempt.events
  rescheduled : ∀ attempt ∈ attempts, ∀ retrySecs, removal space name ∉ attempt.events →
    attempt.followUp retrySecs = .requeue retrySecs
  stays : present final = true ↔
    present start = true ∧ ∀ attempt ∈ attempts, removal space name ∉ attempt.events
  queued : (attempts.flatMap Attempt.events).countP queues = attempts.countP fun attempt =>
    attempt.events.any finds && opensTo handler isOpen space attempt.start
  once : ∀ attempt ∈ attempts, attempt.events.countP queues ≤ 1
  triggers : ∀ attempt ∈ attempts, ∀ place target accepted,
    ⟨.trigger place target, accepted⟩ ∈ attempt.events →
      place = space ∧ target = conventionalName ∧ attempt.events.any finds = true

/-- However attempts on a signal are answered, each of them comes to its end, and none loses
the signal. -/
theorem signal_is_never_lost
    (keeps : KeepsSignal handler space signal.knownName present isOpen)
    (inSpace : signal.space = some space) :
    (∀ state, ∃ result reached,
      (reconcile signal).execute handler state = (.ok result, reached)) ∧
    ∀ attempts final, Attempts handler signal present start attempts final →
      Delivered handler space signal.knownName present isOpen start attempts final := by
  constructor
  · intro state
    obtain ⟨result, reached, ended, _course, _left⟩ := reconcile_goes keeps inSpace state
    exact ⟨result, reached, ended⟩
  intro attempts final run
  have course {attempt : Attempt σ} (member : attempt ∈ attempts) :=
    run.courses keeps inSpace member
  have fails {attempt : Attempt σ} (member : attempt ∈ attempts) :
      removal space signal.knownName ∉ attempt.events ↔ attempt.result.toBool = false := by
    rw [← (course member).succeeds_iff]
    cases attempt.result <;> simp [Except.toBool]
  refine ⟨?_, ?_, ?_, ?_, run.queued keeps inSpace, ?_, ?_⟩
  · intro attempt member before after
    exact (course member).justified
  · intro attempt member
    exact (course member).succeeds_iff
  · intro attempt member retrySecs left
    have failed := (fails member).mp left
    unfold Attempt.followUp
    cases result : attempt.result with
    | error failure => rfl
    | ok action =>
        rw [result] at failed
        cases failed
  · rw [run.present_eq keeps inSpace, Bool.and_eq_true, List.all_eq_true]
    refine and_congr_right fun _present => forall_congr' fun attempt => ?_
    refine forall_congr' fun member => ?_
    rw [fails member, Bool.not_eq_true']
  · intro attempt member
    rw [(course member).queued]
    exact Bool.toNat_le _
  · intro attempt member place target accepted asks
    exact (course member).triggers asks

structure Inbox where
  world : World
  present : Bool

namespace Inbox

def accepts (inbox : Inbox) : Bool := inbox.world.acceptsTriggers

def delete (space name place target : String) (inbox : Inbox) : Except Failure Unit × Inbox :=
  match inbox.world.callCluster (.deleteRefresh place target) with
  | (.ok _, world) =>
      (.ok (), ⟨world, inbox.present && !(place == space && target == name)⟩)
  | (.error failure, world) => (.error failure, ⟨world, inbox.present⟩)

def handle (space name : String) : Handler Inbox
  | .cluster (.deleteRefresh place target), inbox => inbox.delete space name place target
  | effect, inbox =>
      ((World.handle effect inbox.world).1, ⟨(World.handle effect inbox.world).2, inbox.present⟩)

theorem keepsSignal (space name : String) :
    KeepsSignal (handle space name) space name Inbox.present accepts where
  removed := by
    intro inbox answered
    change (inbox.delete space name space name).1 = _ at answered
    change (inbox.delete space name space name).2.present = false
    unfold delete at answered ⊢
    split at answered
    · simp
    · cases answered
  kept := by
    intro effect inbox other
    cases effect with
    | cluster call =>
        cases call with
        | deleteRefresh place target =>
            change (⟨.cluster (.deleteRefresh place target),
              (inbox.delete space name place target).1⟩ : Event) ≠ _ at other
            change (inbox.delete space name place target).2.present = inbox.present
            unfold delete at other ⊢
            split at other
            · by_cases own : place = space ∧ target = name
              · obtain ⟨rfl, rfl⟩ := own
                exact absurd rfl other
              · have apart : (place == space && target == name) = false := by
                  simpa using own
                simp [apart]
            · rfl
        | _ => rfl
    | _ => rfl
  accepts := by
    intro inbox
    change (if inbox.world.acceptsTriggers then ((true : Bool), _)
      else ((false : Bool), inbox.world)).1 = inbox.world.acceptsTriggers
    cases inbox.world.acceptsTriggers <;> rfl

end Inbox

def sampleSignal : Metadata :=
  { Metadata.empty with
    name := some "now"
    space := some "ns" }

def closed : Inbox where
  world := { Sample.world [] with
    store := { Store.empty with configExists := true }
    acceptsTriggers := false }
  present := true

def opened : Inbox :=
  { closed with world := { closed.world with
    acceptsTriggers := true
    faults := [⟨.deleteRefresh, none, .hub .service, 0, 1⟩] } }

/-- The queue is closed for the first attempt and the deletion fails in the second. The third
queues the pass again and deletes the signal. -/
theorem signal_is_never_lost_sample :
    ∃ attempts final, attempts.length = 3 ∧
      Attempts (Inbox.handle "ns" "now") sampleSignal Inbox.present closed attempts final ∧
      Delivered (Inbox.handle "ns" "now") "ns" "now" Inbox.present Inbox.accepts closed attempts
        final ∧
      closed.present = true ∧ final.present = false ∧
      (attempts.flatMap Attempt.events).countP queues = 2 := by
  have inSpace : sampleSignal.space = some "ns" := rfl
  obtain ⟨_ends, delivers⟩ := signal_is_never_lost (Inbox.keepsSignal "ns" "now") inSpace
  have first : Attempts (Inbox.handle "ns" "now") sampleSignal Inbox.present closed _ _ :=
    .tried .none (Prod.ext rfl rfl)
  have second := (first.meanwhile (show opened.present = _ from rfl)).tried (Prod.ext rfl rfl)
  have third := second.tried (Prod.ext rfl rfl)
  exact ⟨_, _, rfl, third, delivers _ _ third, rfl, rfl, rfl⟩

end ClusterDiscovery.Refresh

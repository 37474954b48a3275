/-
Which wakes run a pass, and what becomes of nudges and of the retry timer.

However the loop is woken and whatever goes on beside it, each wake that calls for a pass runs
exactly one and no other wake runs any. The retry timer stands as the last pass has left it. A
nudge stays pending until a wake consumes it, so behind a discovery pass that was applied either
a nudge is still pending or a pass has begun since. The one exception is a retry beyond the end
of the clock: the pass that would arm it ends the loop.
-/

import ClusterDiscovery.Proofs.Overlay.Scene

namespace ClusterDiscovery.Overlay

variable {σ : Type} {handler : Handler σ} {state : σ} {timing : Timing} {tasks : Nat → Task}
  {log earlier later : List Happening} {scene : Scene}

def passes (turns : List Turn) : Nat := turns.countP fun turn => turn.ended.isSome

def wakes (log : List Happening) : List Wake := (turns log).map Turn.wake

def listing (count : Nat) : List Wake :=
  .watched .listDone :: (List.replicate count (.watched .listed) ++ [.watched .listBegun])

theorem countP_listing (count : Nat) : (listing count).countP Wake.runsPass = 1 := by
  unfold listing
  rw [List.countP_cons_of_pos rfl, List.countP_append, List.countP_replicate]
  rfl

theorem Turn.Whole.isSome_ended {turn : Turn} (whole : turn.Whole) :
    turn.ended.isSome = turn.wake.runsPass := by
  cases whole with
  | idle idle => exact idle.symm
  | ran runs _comes _counted => exact runs.symm

def completion (events : List Event) (time : Nat) (summary : Summary) : List Happening :=
  .finished time summary :: (events.map .performed).reverse

/-- A pass under way goes on to its end. -/
theorem Run.goes_on (run : Run timing tasks log scene) {rest : Program Summary}
    (left : scene.underWay = some rest) {summary : Summary} {reached : σ}
    (ended : rest.run handler state = (.ok summary, reached)) :
    Run timing tasks (completion (rest.trace handler state) scene.now summary ++ log) { scene with
      loop := scene.loop.afterPass timing scene.now summary
      underWay := none } := by
  induction rest generalizing log scene state with
  | done value =>
      cases ended
      exact run.went (.finished left)
  | halt reason => cases ended
  | perform effect next ih =>
      have further := ih _ (run.went (.performed left (handler effect state).1)) rfl ended
      simpa [completion, Program.trace] using further

/-- Whatever is answered, a pass under way does not stop short. -/
theorem Run.ends (run : Run timing tasks log scene) {rest : Program Summary}
    (left : scene.underWay = some rest) (handler : Handler σ) (state : σ) :
    ∃ summary reached, rest.run handler state = (.ok summary, reached) := by
  have accounted := run.accounted
  rw [left] at accounted
  generalize turns log = past at accounted
  cases accounted with
  | underWay runs comes whole =>
      cases ended : rest.run handler state with
      | mk result reached =>
          cases result with
          | ok summary => exact ⟨summary, reached, rfl⟩
          | error reason => exact ((pass_obeys_counting.comes comes).stops ended).elim

/-- What a loop comes to whose passes take no time of their own is what goes on between the passes
of a run. -/
theorem Reaches.exists_run {loop : Loop} {now : Nat} {past : List Past}
    (reaches : Reaches handler timing loop now state past) :
    ∃ log, Run timing tasks log ⟨now, loop, none, fun index => (tasks index).program⟩ := by
  induction reaches with
  | started now state => exact ⟨[], .started now⟩
  | waited _before notEarlier _changed ih =>
      obtain ⟨log, run⟩ := ih
      exact ⟨_, run.went (.elapsed notEarlier)⟩
  | nudged _before ih =>
      obtain ⟨log, run⟩ := ih
      exact ⟨_, run.went .nudged⟩
  | idled _before ready idle ih =>
      obtain ⟨log, run⟩ := ih
      have woken := run.went (.woken rfl ready)
      unfold Loop.turn
      rw [idle] at woken ⊢
      exact ⟨_, woken⟩
  | ran _before ready runs ended notEarlier ih =>
      obtain ⟨log, run⟩ := ih
      have woken := run.went (.woken rfl ready)
      rw [if_pos runs] at woken
      unfold Loop.turn
      rw [if_pos runs]
      exact ⟨_, (woken.went (.elapsed notEarlier)).goes_on rfl ended⟩

/-- A schedule stays within what runs come to. -/
theorem Schedule.Attainable.exists_run {schedule : Schedule} (attainable : schedule.Attainable) :
    ∃ log, Run schedule.timing tasks log
      ⟨schedule.now, schedule.loop, none, fun index => (tasks index).program⟩ := by
  obtain ⟨_past, reaches⟩ := attainable
  exact reaches.exists_run

/-- A discovery pass goes on to its end while the pass of the loop waits. -/
theorem Run.discovers (run : Run timing tasks log scene) {index : Nat}
    {program : Program (Except Failure (Action × PassOutcome))}
    (left : scene.discoveries index = program) {result : Except Failure (Action × PassOutcome)}
    {reached : σ} (ended : program.run handler state = (.ok result, reached)) :
    ∃ next, Run timing tasks (((program.trace handler state).map (.discovered index)).reverse ++ log)
        next ∧ next.discoveries index = .done result ∧ next.underWay = scene.underWay ∧
      next.now = scene.now := by
  induction program generalizing log scene state with
  | done value =>
      cases ended
      exact ⟨scene, run, left, rfl, rfl⟩
  | halt reason => cases ended
  | perform effect next ih =>
      have acted := run.went (.discovered left (handler effect state).1)
      obtain ⟨final, further, done, waits, sameTime⟩ := ih _ acted (Function.update_self ..) ended
      refine ⟨final, ?_, done, waits, sameTime⟩
      simpa [Program.trace] using further

/-- How the loop attends to what has happened. Each wake that calls for a pass has run exactly
one, the last perhaps not to its end yet, to which it comes whatever is answered; a list of
managed clusters of any length adds one pass. The timer is armed exactly if the last pass that
is over has counted a failed write, and the loop stops by the order to stop or by a retry that
the clock cannot reach. A wake by a nudge consumes all that are pending, and a discovery pass
that was applied has nudged last. -/
structure Attends (timing : Timing) (tasks : Nat → Task) (log : List Happening) (scene : Scene) :
    Prop where
  accounted : Accounted scene.underWay (turns log)
  ends : ∀ rest, scene.underWay = some rest → ∀ (σ : Type) (handler : Handler σ) (state : σ),
    ∃ summary, Run timing tasks
      (completion (rest.trace handler state) scene.now summary ++ log) { scene with
        loop := scene.loop.afterPass timing scene.now summary
        underWay := none }
  counted : scene.underWay = none → passes (turns log) = (wakes log).countP Wake.runsPass
  batched : scene.underWay = none → ∀ count before, wakes log = listing count ++ before →
    passes (turns log) = before.countP Wake.runsPass + 1
  idle : ∀ event next, scene.Step timing (.woken (.watched event)) next →
    event.callsForPass = false → next = scene
  timer : scene.loop.stopped = false → ∀ deadline, scene.loop.retryAt = some deadline ↔
    ∃ others turn before time summary, turns log = others ++ turn :: before ∧
      turn.ended = some (time, summary) ∧ (∀ other ∈ others, other.ended = none) ∧
        0 < summary.failed ∧ deadline = time + timing.retry
  stops : scene.loop.stopped = true ↔ .woken .cancelled ∈ log ∨
    ∃ time summary, .finished time summary ∈ log ∧ 0 < summary.failed ∧
      timing.clockEnd ≤ time + timing.retry
  pending : scene.loop.permit = true ↔ NudgePending log
  consumed : ∀ later earlier, log = later ++ .woken .nudged :: earlier →
    NudgePending earlier ∧ ¬ NudgePending (.woken .nudged :: earlier)
  applied : ∀ index action, scene.discoveries index = .done (.ok (action, .applied)) →
    ∃ later earlier, log = later ++ .discovered index ⟨.nudge, ()⟩ :: earlier ∧
      (∀ event, .discovered index event ∉ later) ∧
        (scene.loop.permit = true ∨ .woken .nudged ∈ later)
  cancelled : ∀ later earlier, log = later ++ .woken .cancelled :: earlier →
    ∀ happening ∈ later, happening.ofLoop = false

theorem Run.passes_eq (run : Run timing tasks log scene) (free : scene.underWay = none) :
    passes (turns log) = (wakes log).countP Wake.runsPass := by
  have accounted := run.accounted
  rw [free] at accounted
  cases accounted with
  | resting whole =>
      unfold passes wakes
      rw [List.countP_map]
      apply List.countP_congr
      intro turn member
      rw [(whole turn member).isSome_ended]
      rfl

theorem Scene.Step.eq_of_idle {next : Scene} {event : WatchEvent}
    (step : scene.Step timing (.woken (.watched event)) next)
    (idle : event.callsForPass = false) : next = scene := by
  cases step with
  | woken free ready =>
      have quiet : Wake.runsPass (.watched event) = false := idle
      rw [if_neg (ne_true_of_eq_false quiet), ← free]
      rfl

theorem retryAfter?_eq_some_iff {turns : List Turn} {deadline : Nat} :
    retryAfter? timing turns = some deadline ↔
      ∃ others turn before time summary, turns = others ++ turn :: before ∧
        turn.ended = some (time, summary) ∧ (∀ other ∈ others, other.ended = none) ∧
          0 < summary.failed ∧ deadline = time + timing.retry := by
  unfold retryAfter?
  rw [Option.bind_eq_some_iff]
  constructor
  · intro ⟨⟨time, summary⟩, last, due⟩
    obtain ⟨others, turn, before, same, ended, silent⟩ := List.findSome?_eq_some_iff.mp last
    rw [Option.ite_none_right_eq_some, Option.some.injEq] at due
    exact ⟨others, turn, before, time, summary, same, ended, silent, due.1, due.2.symm⟩
  · intro ⟨others, turn, before, time, summary, same, ended, silent, behind, due⟩
    subst due
    refine ⟨(time, summary), ?_, if_pos behind⟩
    exact List.findSome?_eq_some_iff.mpr ⟨others, turn, before, same, ended, silent⟩

theorem Run.stops_iff (run : Run timing tasks log scene) :
    scene.loop.stopped = true ↔ .woken .cancelled ∈ log ∨
      ∃ time summary, .finished time summary ∈ log ∧ 0 < summary.failed ∧
        timing.clockEnd ≤ time + timing.retry := by
  rw [run.stopped_iff]
  constructor
  · intro ⟨happening, member, stops⟩
    cases happening with
    | woken wake =>
        cases (show wake = .cancelled from stops)
        exact Or.inl member
    | finished time summary => exact Or.inr ⟨time, summary, member, stops⟩
    | elapsed | nudged | discovered | performed => exact stops.elim
  · intro holds
    rcases holds with member | ⟨time, summary, member, stops⟩
    · exact ⟨_, member, rfl⟩
    · exact ⟨_, member, stops⟩

theorem Run.pending_or_consumed (run : Run timing tasks log scene) {index : Nat} {action : Action}
    (applied : scene.discoveries index = .done (.ok (action, .applied))) :
    ∃ later earlier, log = later ++ .discovered index ⟨.nudge, ()⟩ :: earlier ∧
      (∀ event, .discovered index event ∉ later) ∧
        (scene.loop.permit = true ∨ .woken .nudged ∈ later) := by
  have comes := run.discoveries_come index
  rw [applied] at comes
  have obeys := (Pass.run_nudges (tasks index).settings (tasks index).config
    (tasks index).space).program
  obtain ⟨before, last⟩ := obeys.ensures_of_comes comes action rfl
  obtain ⟨later, earlier, same, silent⟩ := split_of_discoveredBy last
  refine ⟨later, earlier, same, silent, ?_⟩
  by_cases consumed : .woken .nudged ∈ later
  · exact Or.inr consumed
  · exact Or.inl (run.permit_iff.mpr ⟨later, _, earlier, same, rfl, consumed⟩)

/-- The loop runs a pass exactly when it should, in every run: in whatever order it is woken,
whatever goes on between and during its passes, and whatever their effects are answered. -/
theorem Run.attends (run : Run timing tasks log scene) : Attends timing tasks log scene where
  accounted := run.accounted
  ends := by
    intro rest left σ handler state
    obtain ⟨summary, _reached, ended⟩ := run.ends left handler state
    exact ⟨summary, run.goes_on left ended⟩
  counted := run.passes_eq
  batched := by
    intro free count before same
    rw [run.passes_eq free, same, List.countP_append, countP_listing, Nat.add_comm]
  idle _ _ step idle := step.eq_of_idle idle
  timer := by
    intro running deadline
    rw [run.retryAt_eq running]
    exact retryAfter?_eq_some_iff
  stops := run.stops_iff
  pending := run.permit_iff
  consumed := by
    intro later earlier same
    subst same
    refine ⟨run.pending_of_nudged, ?_⟩
    rw [nudgePending_cons]
    intro still
    rcases still with nudges | ⟨_, other⟩
    · exact nudges
    · exact other rfl
  applied _ _ applied := run.pending_or_consumed applied
  cancelled := by
    intro later earlier same
    subst same
    exact run.quiet_of_stops rfl

end ClusterDiscovery.Overlay

namespace ClusterDiscovery

namespace Sample

def scanning : Overlay.Task := ⟨.standard, config, "ns"⟩

def endless : Overlay.Timing :=
  ⟨300000, 18446744073709551615 * 1000, 9223372036854775808 * 1000⟩

theorem run_stale : Overlay.pass.run World.handle stale =
    (.ok ⟨1, 0, 1⟩, (Overlay.pass.run World.handle stale).2) := Prod.ext rfl rfl

end Sample

namespace Overlay

/-- While the pass of the first tick is under way a discovery pass is applied. Its nudge is
pending when the other pass is over. -/
theorem attends_sample : ∃ log scene, Run Sample.timing (fun _ => Sample.scanning) log scene ∧
    Attends Sample.timing (fun _ => Sample.scanning) log scene ∧ scene.underWay = none ∧
      scene.discoveries 0 = .done (.ok (.requeue 1800, .applied)) ∧ scene.loop.permit = true ∧
        scene.loop.retryAt = some 30000 := by
  have ticked : Loop.initial.ready 0 .ticked = true := rfl
  have woken : Run Sample.timing (fun _ => Sample.scanning) [.woken .ticked] _ :=
    (Run.started 0).went (.woken rfl ticked)
  obtain ⟨reached, applied⟩ : ∃ reached, Sample.scanning.program.run (Sample.granting ["b"])
      (Sample.world [Sample.record "c"]) =
        (.ok (.ok (.requeue 1800, .applied)), reached) := by
    have ended : (Sample.scanning.program.run (Sample.granting ["b"])
        (Sample.world [Sample.record "c"])).1 = .ok (.ok (.requeue 1800, .applied)) := by
      decide +kernel
    exact ⟨_, Prod.ext ended rfl⟩
  have left : (Scene.initial (fun _ => Sample.scanning) 0).discoveries 0 =
    Sample.scanning.program := rfl
  obtain ⟨scene, discovered, done, waits, sameTime⟩ := woken.discovers left applied
  have finished := discovered.goes_on waits Sample.run_stale
  have attends := finished.attends
  refine ⟨_, _, finished, attends, ?_⟩
  dsimp only
  refine ⟨rfl, done, ?_, ?_⟩
  · have consumes := attends.applied 0 (.requeue 1800)
    dsimp only at consumes
    obtain ⟨later, earlier, same, _silent, pending | consumed⟩ := consumes done
    · exact pending
    · have member := List.mem_append_left (.discovered 0 ⟨.nudge, ()⟩ :: earlier) consumed
      rw [← same] at member
      simp [completion] at member
  · have inTime : 0 + Sample.timing.retry < Sample.timing.clockEnd := by decide
    rw [show scene.now = 0 from sameTime]
    unfold Loop.afterPass
    rw [if_pos Nat.one_pos, if_pos inTime]
    rfl

/-- A write fails, and the retry would come after the end of the clock. The timer stays disarmed
and the loop has stopped, though nothing has ordered it to. -/
theorem unreachable_retry_stops : ∃ log scene summary,
    Run Sample.endless (fun _ => Sample.scanning) (.finished 0 summary :: log) scene ∧
      0 < summary.failed ∧ scene.loop.retryAt = none ∧ scene.loop.stopped = true ∧
        .woken .cancelled ∉ log := by
  have ticked : Loop.initial.ready 0 .ticked = true := rfl
  have woken : Run Sample.endless (fun _ => Sample.scanning) [.woken .ticked] _ :=
    (Run.started 0).went (.woken rfl ticked)
  have finished := woken.goes_on rfl Sample.run_stale
  refine ⟨_, _, _, finished, by decide, ?_, ?_, ?_⟩
  · decide +kernel
  · decide +kernel
  · simp

end Overlay

end ClusterDiscovery

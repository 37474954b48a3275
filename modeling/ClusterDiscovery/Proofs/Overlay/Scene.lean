/-
The loop of the overlay and the discovery passes beside it.

Any number of discovery passes and the pass of the loop perform their effects one at a time and
in any order. Every effect may be answered in any way and time may pass in between, so nothing
is assumed of the world. Whenever its own pass is over the loop takes any wake that is ready.
What happens is written down, and the log says which pass each wake has run.
-/

import ClusterDiscovery.Proofs.Overlay.RetryTimer
import ClusterDiscovery.Proofs.Pass.Stages

namespace ClusterDiscovery

namespace Discipline

abbrev free : Discipline (List Event) := .history fun _ => True

abbrev steady : Discipline (List Event) := .history fun _ => False

end Discipline

namespace Program

variable {κ α σ : Type} {rule : Discipline κ} {program rest : Program α} {events : List Event}
  {handler : Handler σ} {state : σ}

/-- What is left of a program once it has performed some effects, answered in some way. -/
inductive Comes (program : Program α) : List Event → Program α → Prop where
  | begun : Comes program [] program
  | performed {events : List Event} {effect : Effect} {next : effect.Answer → Program α}
      (before : Comes program events (.perform effect next)) (answer : effect.Answer) :
      Comes program (events ++ [⟨effect, answer⟩]) (next answer)

/-- What is left of a program obeys as well, given what has been learnt. -/
theorem Obeys.comes {ensures : κ → α → Prop} {known : κ}
    (obeys : program.Obeys rule ensures known) (comes : program.Comes events rest) :
    rest.Obeys rule ensures (rule.learnt known events) := by
  induction comes with
  | begun => exact obeys
  | performed _before answer ih =>
      unfold Discipline.learnt at ih ⊢
      rw [List.foldl_append]
      exact (obeys_perform.mp ih).2 answer

/-- Whatever is answered, a program ends as it ensures of all that it has performed. -/
theorem Obeys.ensures_of_comes {stops : List Event → Prop} {ensures : List Event → α → Prop}
    {value : α} (obeys : program.Obeys (.history stops) ensures [])
    (comes : program.Comes events (.done value)) : ensures events value := by
  have ended := obeys_done.mp (obeys.comes comes)
  rw [Discipline.learnt_history] at ended
  exact ended

/-- Where everything is permitted and a program may stop at any time, it obeys. -/
theorem obeys_of_free (permits : ∀ known effect, rule.permits known effect)
    (stops : ∀ known, rule.stops known) (program : Program α) (known : κ) :
    program.Obeys rule (fun _ _ => True) known := by
  induction program generalizing known with
  | done value => exact obeys_done.mpr trivial
  | halt reason =>
      unfold Obeys
      exact stops known
  | perform effect next ih =>
      exact obeys_perform.mpr ⟨permits known effect, fun answer => ih answer _⟩

end Program

def NudgedLast (events : List Event) : Prop := ∃ earlier, events = earlier ++ [⟨.nudge, ()⟩]

namespace Pass

variable {config : Config} {space : String}

private theorem obeys_freely {α : Type} (routine : Routine α) (known : List Event) :
    routine.Obeys .free (fun _ _ => True) known := by
  unfold Routine.Obeys
  exact Program.obeys_of_free (fun _ _ => trivial) (fun _ => trivial) _ known

theorem converge_nudges (canonical : Keyed ClusterSpec) (known : List Event) :
    (converge config space canonical).Obeys .free
      (fun events result => result = .ok () → NudgedLast events) known := by
  unfold converge
  apply Routine.obeys_bind.mpr
  refine Routine.obeys_call.mpr ⟨trivial, fun answer => ?_⟩
  cases answer with
  | error failure => nofun
  | ok existing =>
      apply (obeys_freely _ _).bind
      · intro events _ _
        exact (Routine.obeys_perform (e := .nudge)).mpr ⟨trivial, fun _ _ => ⟨events, rfl⟩⟩
      · nofun

/-- A discovery pass that ends as applied has nudged the overlay, and has done nothing since. -/
theorem run_nudges (settings : Settings) (config : Config) (space : String) :
    (run settings config space).Obeys .free (fun events result =>
      ∀ action, result = .ok (action, .applied) → NudgedLast events) [] := by
  rw [run_eq]
  apply Routine.obeys_bind.mpr
  apply Routine.obeys_attempt.mpr
  apply (obeys_freely (discover settings config space) []).mono
  intro events result _
  cases result with
  | ok canonical =>
      apply (converge_nudges canonical events).bind
      · intro events _ nudged
        exact Routine.obeys_pure.mpr fun _ _ => nudged rfl
      · nofun
  | error failure =>
      simp only [conclude]
      split
      · apply (obeys_freely (removeAll space) events).bind
        · intro events _ _
          refine Routine.obeys_pure.mpr fun _ ended => ?_
          cases ended
        · intro _ _ _ _ ended
          cases ended
      · split
        · refine Routine.obeys_pure.mpr fun _ ended => ?_
          cases ended
        · refine Routine.obeys_ofExcept.mpr fun _ ended => ?_
          cases ended

end Pass

namespace Overlay

def Counted (events : List Event) (summary : Summary) : Prop :=
  summary.failed = (marks events).countP Mark.lost

theorem Counted.append {events others : List Event} {summary : Summary}
    (counted : Counted events summary) (unmarked : marks others = []) :
    Counted (events ++ others) summary := by
  unfold Counted marks at *
  rw [List.filterMap_append, unmarked, List.append_nil]
  exact counted

theorem Counted.lost {events : List Event} {summary : Summary} {cluster : Cluster} {managed : Bool}
    {failure : Failure} (counted : Counted events summary) :
    Counted (events ++ [⟨.cluster (.setManaged cluster managed), Except.error failure⟩])
      summary.missed := by
  have last : marks [⟨.cluster (.setManaged cluster managed), Except.error failure⟩] =
      [⟨cluster, managed, false⟩] := rfl
  unfold Counted marks at *
  rw [List.filterMap_append, List.countP_append, last, List.countP_singleton]
  exact congrArg (· + 1) counted

theorem Counted.made {events : List Event} {summary : Summary} {cluster : Cluster} {managed : Bool}
    (counted : Counted events summary) :
    Counted (events ++ [⟨.cluster (.setManaged cluster managed), Except.ok ()⟩]) summary.wrote := by
  have last : marks [⟨.cluster (.setManaged cluster managed), Except.ok ()⟩] =
      [⟨cluster, managed, true⟩] := rfl
  unfold Counted marks at *
  rw [List.filterMap_append, List.countP_append, last, List.countP_singleton]
  exact counted

theorem repair_counts {managedIds : List String} {listing : List Cluster} {events : List Event}
    {summary : Summary} (counted : Counted events summary) :
    (repair managedIds summary listing).Obeys .steady Counted events := by
  induction listing generalizing events summary with
  | nil => exact Program.obeys_done.mpr counted
  | cons cluster rest ih =>
      cases stale : isStale managedIds cluster with
      | false =>
          rw [repair_kept (isStale_eq_false_iff.mp stale)]
          exact ih counted
      | true =>
          rw [repair_stale (isStale_eq_true_iff.mp stale)]
          refine Program.obeys_perform.mpr ⟨trivial, fun answer => ?_⟩
          cases answer with
          | error failure => exact ih counted.lost
          | ok done =>
              refine Program.obeys_perform.mpr ⟨trivial, fun _ => ?_⟩
              exact ih (counted.made.append rfl)

/-- Whatever is answered, a pass does not stop short and counts the writes that fail. -/
theorem pass_obeys_counting : pass.Obeys .steady Counted [] := by
  have nothing : Counted [] .nothing := rfl
  rw [pass_eq]
  refine Program.obeys_perform.mpr ⟨trivial, fun listed => ?_⟩
  cases listed with
  | error failure => exact Program.obeys_done.mpr (nothing.append rfl)
  | ok listing =>
      simp only
      split
      · exact Program.obeys_done.mpr (nothing.append rfl)
      · refine Program.obeys_perform.mpr ⟨trivial, fun answered => ?_⟩
        cases answered with
        | error failure => exact Program.obeys_done.mpr (nothing.append rfl)
        | ok managedIds => exact repair_counts (nothing.append rfl)

structure Task where
  settings : Settings
  config : Config
  space : String

def Task.program (task : Task) : Program (Except Failure (Action × PassOutcome)) :=
  ExceptT.run (Pass.run task.settings task.config task.space)

/-- What goes on at one time: the loop, what is left of its pass while one is under way, and what
is left of each discovery pass. -/
structure Scene where
  now : Nat
  loop : Loop
  underWay : Option (Program Summary)
  discoveries : Nat → Program (Except Failure (Action × PassOutcome))

/-- Something that happens: time passes, somebody nudges the loop, a discovery pass performs an
effect, the loop takes a wake, the pass that this runs performs an effect, and it ends. -/
inductive Happening where
  | elapsed
  | nudged
  | discovered (index : Nat) (event : Event)
  | woken (wake : Wake)
  | performed (event : Event)
  | finished (time : Nat) (summary : Summary)

def Happening.ofLoop : Happening → Bool
  | .elapsed => false
  | .nudged => false
  | .discovered _ _ => false
  | .woken _ => true
  | .performed _ => true
  | .finished _ _ => true

/-- The loop hears of an effect of a discovery pass if it is a nudge. -/
def Loop.hear (loop : Loop) : Effect → Loop
  | .nudge => loop.nudge
  | _ => loop

namespace Scene

inductive Step (timing : Timing) : Scene → Happening → Scene → Prop where
  | elapsed {scene : Scene} {later : Nat} (notEarlier : scene.now ≤ later) :
      Step timing scene .elapsed { scene with now := later }
  | nudged {scene : Scene} : Step timing scene .nudged { scene with loop := scene.loop.nudge }
  | discovered {scene : Scene} {index : Nat} {effect : Effect}
      {next : effect.Answer → Program (Except Failure (Action × PassOutcome))}
      (left : scene.discoveries index = .perform effect next) (answer : effect.Answer) :
      Step timing scene (.discovered index ⟨effect, answer⟩) { scene with
        loop := scene.loop.hear effect
        discoveries := Function.update scene.discoveries index (next answer) }
  | woken {scene : Scene} {wake : Wake} (free : scene.underWay = none)
      (ready : scene.loop.ready scene.now wake = true) :
      Step timing scene (.woken wake) { scene with
        loop := scene.loop.take wake
        underWay := if wake.runsPass then some pass else none }
  | performed {scene : Scene} {effect : Effect} {next : effect.Answer → Program Summary}
      (left : scene.underWay = some (.perform effect next)) (answer : effect.Answer) :
      Step timing scene (.performed ⟨effect, answer⟩)
        { scene with underWay := some (next answer) }
  | finished {scene : Scene} {summary : Summary} (left : scene.underWay = some (.done summary)) :
      Step timing scene (.finished scene.now summary) { scene with
        loop := scene.loop.afterPass timing scene.now summary
        underWay := none }

def initial (tasks : Nat → Task) (now : Nat) : Scene :=
  ⟨now, .initial, none, fun index => (tasks index).program⟩

end Scene

/-- What can have happened since the start, the last thing first, and what goes on then. -/
inductive Run (timing : Timing) (tasks : Nat → Task) : List Happening → Scene → Prop where
  | started (now : Nat) : Run timing tasks [] (.initial tasks now)
  | went {log : List Happening} {scene reached : Scene} {happening : Happening}
      (before : Run timing tasks log scene) (step : scene.Step timing happening reached) :
      Run timing tasks (happening :: log) reached

structure Turn where
  wake : Wake
  events : List Event
  ended : Option (Nat × Summary)

def turns : List Happening → List Turn
  | [] => []
  | .woken wake :: earlier => ⟨wake, [], none⟩ :: turns earlier
  | .performed event :: earlier =>
      (turns earlier).modifyHead fun turn => { turn with events := turn.events ++ [event] }
  | .finished time summary :: earlier =>
      (turns earlier).modifyHead fun turn => { turn with ended := some (time, summary) }
  | .elapsed :: earlier => turns earlier
  | .nudged :: earlier => turns earlier
  | .discovered _ _ :: earlier => turns earlier

/-- The wake has run exactly one pass if it calls for one, and has done nothing otherwise. -/
inductive Turn.Whole : Turn → Prop where
  | idle {wake : Wake} (idle : wake.runsPass = false) : Whole ⟨wake, [], none⟩
  | ran {wake : Wake} {events : List Event} {time : Nat} {summary : Summary}
      (runs : wake.runsPass = true) (comes : pass.Comes events (.done summary))
      (counted : Counted events summary) : Whole ⟨wake, events, some (time, summary)⟩

/-- All turns are whole but for the one whose pass is under way. -/
inductive Accounted : Option (Program Summary) → List Turn → Prop where
  | resting {turns : List Turn} (whole : ∀ turn ∈ turns, turn.Whole) : Accounted none turns
  | underWay {wake : Wake} {events : List Event} {rest : Program Summary} {earlier : List Turn}
      (runs : wake.runsPass = true) (comes : pass.Comes events rest)
      (whole : ∀ turn ∈ earlier, turn.Whole) :
      Accounted (some rest) (⟨wake, events, none⟩ :: earlier)

def discoveredBy (index : Nat) : List Happening → List Event
  | [] => []
  | .discovered other event :: earlier =>
      if other = index then discoveredBy index earlier ++ [event] else discoveredBy index earlier
  | _ :: earlier => discoveredBy index earlier

def Happening.Nudges : Happening → Prop
  | .nudged => True
  | .discovered _ event => event.effect = .nudge
  | _ => False

/-- A nudge has been sent and no wake has consumed it. -/
def NudgePending (log : List Happening) : Prop :=
  ∃ later nudge earlier, log = later ++ nudge :: earlier ∧ nudge.Nudges ∧ .woken .nudged ∉ later

variable {timing : Timing} {tasks : Nat → Task} {log earlier later : List Happening}
  {scene reached : Scene} {happening : Happening} {index : Nat}

theorem Run.accounted (run : Run timing tasks log scene) :
    Accounted scene.underWay (turns log) := by
  induction run with
  | started now =>
      apply Accounted.resting
      intro turn absent
      cases absent
  | went before step ih =>
      cases step with
      | elapsed notEarlier => exact ih
      | nudged => exact ih
      | discovered left answer => exact ih
      | @woken wake free ready =>
          rw [free] at ih
          cases ih with
          | resting whole =>
              cases runs : wake.runsPass with
              | true => exact .underWay runs .begun whole
              | false =>
                  apply Accounted.resting
                  intro turn member
                  rcases List.mem_cons.mp member with rfl | older
                  · exact .idle runs
                  · exact whole turn older
      | performed left answer =>
          rw [left] at ih
          unfold turns
          generalize turns _ = past at ih
          cases ih with
          | underWay runs comes whole => exact .underWay runs (comes.performed answer) whole
      | finished left =>
          rw [left] at ih
          unfold turns
          generalize turns _ = past at ih
          cases ih with
          | underWay runs comes whole =>
              apply Accounted.resting
              intro turn member
              rcases List.mem_cons.mp member with rfl | older
              · exact .ran runs comes (pass_obeys_counting.ensures_of_comes comes)
              · exact whole turn older

namespace Loop

variable {loop : Loop} {effect : Effect} {wake : Wake} {now finished : Nat} {summary : Summary}

theorem running_of_ready (ready : loop.ready now wake = true) : loop.stopped = false := by
  cases stopped : loop.stopped with
  | false => rfl
  | true => cases wake <;> simp [Loop.ready, stopped] at ready

theorem stopped_take : (loop.take wake).stopped = true ↔
    loop.stopped = true ∨ wake = .cancelled := by
  cases wake <;> simp [take]

theorem permit_take : (loop.take wake).permit = true ↔ loop.permit = true ∧ wake ≠ .nudged := by
  cases wake <;> simp [take]

@[simp] theorem retryAt_take : (loop.take wake).retryAt = loop.retryAt := by
  cases wake <;> rfl

@[simp] theorem stopped_hear : (loop.hear effect).stopped = loop.stopped := by
  cases effect <;> rfl

theorem permit_hear : (loop.hear effect).permit = true ↔
    loop.permit = true ∨ effect = .nudge := by
  cases effect <;> simp [hear, nudge]

@[simp] theorem retryAt_hear : (loop.hear effect).retryAt = loop.retryAt := by
  cases effect <;> rfl

@[simp] theorem permit_afterPass :
    (loop.afterPass timing finished summary).permit = loop.permit := by
  unfold afterPass
  split
  · split <;> rfl
  · rfl

theorem stopped_afterPass : (loop.afterPass timing finished summary).stopped = true ↔
    loop.stopped = true ∨ 0 < summary.failed ∧ timing.clockEnd ≤ finished + timing.retry := by
  unfold afterPass
  by_cases behind : 0 < summary.failed
  · by_cases inTime : finished + timing.retry < timing.clockEnd
    · simp [behind, inTime, Nat.not_le.mpr inTime]
    · simp [behind, inTime, Nat.not_lt.mp inTime]
  · simp [behind]

theorem retryAt_afterPass (running : (loop.afterPass timing finished summary).stopped = false) :
    (loop.afterPass timing finished summary).retryAt =
      if 0 < summary.failed then some (finished + timing.retry) else none := by
  change (loop.turn timing .ticked finished summary).stopped = false at running
  change (loop.turn timing .ticked finished summary).retryAt = _
  exact retryAt_turn rfl running

end Loop

/-- It stops the loop: the order to stop, or a pass whose retry would come after the end of the
clock. -/
def Happening.Stops (timing : Timing) : Happening → Prop
  | .woken wake => wake = .cancelled
  | .finished time summary => 0 < summary.failed ∧ timing.clockEnd ≤ time + timing.retry
  | _ => False

namespace Scene

theorem Step.stopped_iff (step : scene.Step timing happening reached) :
    reached.loop.stopped = true ↔ scene.loop.stopped = true ∨ happening.Stops timing := by
  cases step with
  | elapsed notEarlier => exact (or_iff_left id).symm
  | nudged => exact (or_iff_left id).symm
  | discovered left answer =>
      rw [Loop.stopped_hear]
      exact (or_iff_left id).symm
  | woken free ready => exact Loop.stopped_take
  | performed left answer => exact (or_iff_left id).symm
  | finished left => exact Loop.stopped_afterPass

theorem Step.permit_iff (step : scene.Step timing happening reached) :
    reached.loop.permit = true ↔
      happening.Nudges ∨ scene.loop.permit = true ∧ happening ≠ .woken .nudged := by
  cases step with
  | elapsed notEarlier => simp [Happening.Nudges]
  | nudged => simp [Happening.Nudges, Loop.nudge]
  | discovered left answer => simp [Happening.Nudges, Loop.permit_hear, or_comm]
  | woken free ready => simp [Happening.Nudges, Loop.permit_take]
  | performed left answer => simp [Happening.Nudges]
  | finished left => simp [Happening.Nudges]

/-- A loop that has stopped does nothing any more. -/
theorem Step.others_of_stopped (step : scene.Step timing happening reached)
    (stopped : scene.loop.stopped = true) (free : scene.underWay = none) :
    happening.ofLoop = false := by
  cases step with
  | elapsed notEarlier => rfl
  | nudged => rfl
  | discovered left answer => rfl
  | woken _ ready =>
      rw [Loop.running_of_ready ready] at stopped
      cases stopped
  | performed left answer =>
      rw [free] at left
      cases left
  | finished left =>
      rw [free] at left
      cases left

end Scene

namespace Run

/-- A loop stops only between its passes. -/
theorem free_of_stopped (run : Run timing tasks log scene) (stopped : scene.loop.stopped = true) :
    scene.underWay = none := by
  induction run with
  | started now => rfl
  | went before step ih =>
      cases step with
      | elapsed notEarlier => exact ih stopped
      | nudged => exact ih stopped
      | discovered left answer =>
          rw [Loop.stopped_hear] at stopped
          exact ih stopped
      | woken free ready =>
          rcases Loop.stopped_take.mp stopped with already | rfl
          · rw [Loop.running_of_ready ready] at already
            cases already
          · rfl
      | performed left answer =>
          rw [ih stopped] at left
          cases left
      | finished left => rfl

theorem stopped_iff (run : Run timing tasks log scene) :
    scene.loop.stopped = true ↔ ∃ happening ∈ log, happening.Stops timing := by
  induction run with
  | started now =>
      constructor
      · intro impossible
        cases impossible
      · intro ⟨_, absent, _⟩
        cases absent
  | went before step ih => rw [step.stopped_iff, ih, List.exists_mem_cons_iff, or_comm]

theorem before (run : Run timing tasks (later ++ happening :: earlier) scene) :
    ∃ start reached, Run timing tasks earlier start ∧ start.Step timing happening reached ∧
      Run timing tasks (happening :: earlier) reached := by
  generalize same : later ++ happening :: earlier = log at run
  induction run generalizing later with
  | started now => cases later <;> cases same
  | @went log start reached latest run step ih =>
      cases later with
      | nil =>
          cases same
          exact ⟨start, reached, run, step, run.went step⟩
      | cons last rest =>
          cases same
          exact ih rfl

/-- Once the loop has stopped it does nothing any more. -/
theorem quiet_of_stops (run : Run timing tasks (later ++ happening :: earlier) scene)
    (stops : happening.Stops timing) : ∀ other ∈ later, other.ofLoop = false := by
  intro other member
  obtain ⟨rest, between, rfl⟩ := List.append_of_mem member
  rw [List.append_assoc, List.cons_append] at run
  obtain ⟨start, _reached, until_, step, _after⟩ := run.before
  have stopped := until_.stopped_iff.mpr
    ⟨happening, List.mem_append_right _ List.mem_cons_self, stops⟩
  exact step.others_of_stopped stopped (until_.free_of_stopped stopped)

end Run

theorem nudgePending_cons : NudgePending (happening :: log) ↔
    happening.Nudges ∨ NudgePending log ∧ happening ≠ .woken .nudged := by
  constructor
  · intro ⟨later, nudge, earlier, same, nudges, unconsumed⟩
    cases later with
    | nil =>
        cases same
        exact Or.inl nudges
    | cons last rest =>
        cases same
        rw [List.mem_cons, not_or] at unconsumed
        exact Or.inr ⟨⟨rest, nudge, earlier, rfl, nudges, unconsumed.2⟩, Ne.symm unconsumed.1⟩
  · intro holds
    rcases holds with nudges | ⟨⟨later, nudge, earlier, rfl, nudges, unconsumed⟩, other⟩
    · exact ⟨[], happening, log, rfl, nudges, List.not_mem_nil⟩
    · refine ⟨happening :: later, nudge, earlier, rfl, nudges, ?_⟩
      exact List.not_mem_cons_of_ne_of_not_mem (Ne.symm other) unconsumed

/-- The loop holds a permit exactly while a nudge is pending. -/
theorem Run.permit_iff (run : Run timing tasks log scene) :
    scene.loop.permit = true ↔ NudgePending log := by
  induction run with
  | started now =>
      constructor
      · intro impossible
        cases impossible
      · intro ⟨later, _, _, same, _, _⟩
        cases later <;> cases same
  | went before step ih => rw [step.permit_iff, ih, nudgePending_cons]

/-- A wake by a nudge consumes one that is pending. -/
theorem Run.pending_of_nudged (run : Run timing tasks (later ++ .woken .nudged :: earlier) scene) :
    NudgePending earlier := by
  obtain ⟨start, _reached, until_, step, _after⟩ := run.before
  apply until_.permit_iff.mp
  cases step with
  | woken free ready =>
      have permitted : (!start.loop.stopped && start.loop.permit) = true := ready
      exact (Bool.and_eq_true _ _ ▸ permitted).2

def retryAfter? (timing : Timing) (turns : List Turn) : Option Nat :=
  (turns.findSome? Turn.ended).bind fun (time, summary) =>
    if 0 < summary.failed then some (time + timing.retry) else none

/-- While the loop runs its timer stands as the last pass has left it: no wake disarms it, and no
nudge. -/
theorem Run.retryAt_eq (run : Run timing tasks log scene) (running : scene.loop.stopped = false) :
    scene.loop.retryAt = retryAfter? timing (turns log) := by
  induction run with
  | started now => rfl
  | went before step ih =>
      have accounted := before.accounted
      cases step with
      | elapsed notEarlier => exact ih running
      | nudged => exact ih running
      | discovered left answer =>
          rw [Loop.stopped_hear] at running
          rw [Loop.retryAt_hear]
          exact ih running
      | woken free ready =>
          rw [Loop.retryAt_take]
          exact ih (Loop.running_of_ready ready)
      | performed left answer =>
          rw [left] at accounted
          have same := ih running
          unfold turns
          generalize turns _ = past at accounted same ⊢
          cases accounted with
          | underWay runs comes whole => exact same
      | finished left =>
          rw [left] at accounted
          unfold turns
          generalize turns _ = past at accounted ⊢
          cases accounted with
          | underWay runs comes whole => exact Loop.retryAt_afterPass running

/-- What is left of a discovery pass is what comes after all that it has performed. -/
theorem Run.discoveries_come (run : Run timing tasks log scene) (index : Nat) :
    (tasks index).program.Comes (discoveredBy index log) (scene.discoveries index) := by
  induction run with
  | started now => exact .begun
  | went before step ih =>
      cases step with
      | elapsed notEarlier => exact ih
      | nudged => exact ih
      | @discovered acting effect next left answer =>
          unfold discoveredBy
          by_cases same : acting = index
          · subst same
            rw [left] at ih
            rw [if_pos rfl]
            simp only [Function.update_self]
            exact ih.performed answer
          · rw [if_neg same]
            simp only [Function.update_of_ne (Ne.symm same)]
            exact ih
      | woken free ready => exact ih
      | performed left answer => exact ih
      | finished left => exact ih

/-- The last thing a discovery pass has performed is the last in the log that it has. -/
theorem split_of_discoveredBy {before : List Event} {event : Event}
    (last : discoveredBy index log = before ++ [event]) :
    ∃ later earlier, log = later ++ .discovered index event :: earlier ∧
      ∀ other, .discovered index other ∉ later := by
  induction log with
  | nil =>
      unfold discoveredBy at last
      exact absurd last.symm (by simp)
  | cons happening rest ih =>
      have onward (same : discoveredBy index rest = before ++ [event])
          (others : ∀ other, happening ≠ .discovered index other) :
          ∃ later earlier, happening :: rest = later ++ .discovered index event :: earlier ∧
            ∀ other, .discovered index other ∉ later := by
        obtain ⟨later, earlier, rfl, absent⟩ := ih same
        refine ⟨happening :: later, earlier, rfl, fun other => ?_⟩
        exact List.not_mem_cons_of_ne_of_not_mem (Ne.symm (others other)) (absent other)
      cases happening with
      | discovered acting performed =>
          unfold discoveredBy at last
          by_cases same : acting = index
          · rw [if_pos same] at last
            subst same
            obtain ⟨_, found⟩ := List.append_inj' last rfl
            cases found
            exact ⟨[], rest, rfl, fun _ => List.not_mem_nil⟩
          · rw [if_neg same] at last
            apply onward last
            intro other equal
            cases equal
            exact same rfl
      | elapsed | nudged | woken | performed | finished =>
          apply onward last
          intro other equal
          cases equal

end Overlay

end ClusterDiscovery

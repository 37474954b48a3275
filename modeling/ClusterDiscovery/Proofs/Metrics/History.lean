/-
Metrics of a whole history.

Reconciliations and overlay passes come one after the other, in any order and whatever the calls
in them are answered. Each leaves a trace that holds the measurements its calls call for, so the
instruments agree with the calls of the history, wherever a pass was cut short. The durations are
those of the passes that were run, in their order, each with the label of how it went.
-/

import ClusterDiscovery.Proofs.Metrics.Pass
import ClusterDiscovery.Proofs.Overlay.Tally
import ClusterDiscovery.Proofs.World.Keeper

namespace ClusterDiscovery

variable {σ : Type} {handler : Handler σ} {state : σ}

namespace Overlay

theorem metered_wrote (cluster : Cluster) (managed : Bool) :
    Metered [⟨.cluster (.setManaged cluster managed), Except.ok ()⟩,
      ⟨.measure (.overlayUpdate managed), ()⟩] where
  balanced := rfl
  uncounted := List.forall_mem_cons.mpr ⟨nofun, List.forall_mem_singleton.mpr nofun⟩

theorem metered_missed (cluster : Cluster) (managed : Bool) (failure : Failure) :
    Metered [⟨.cluster (.setManaged cluster managed), Except.error failure⟩] :=
  .of_idle (List.forall_mem_singleton.mpr ⟨rfl, rfl, nofun⟩)

theorem repair_metered (managedIds : List String) (summary : Summary) (listing : List Cluster)
    (state : σ) : Metered ((repair managedIds summary listing).trace handler state) := by
  induction listing generalizing summary state with
  | nil => exact .nil
  | cons cluster rest ih =>
      cases stale : isStale managedIds cluster with
      | false =>
          rw [repair_kept (isStale_eq_false_iff.mp stale)]
          exact ih summary.kept state
      | true =>
          rcases answered : handler (.cluster (.setManaged cluster
            (managedIds.contains cluster.name))) state with ⟨answer, next⟩
          cases answer with
          | ok done =>
              rw [(repair_wrote stale answered).2]
              exact (metered_wrote cluster _).append (ih summary.wrote _)
          | error failure =>
              rw [(repair_missed stale answered).2]
              exact (metered_missed cluster _ failure).append (ih summary.missed _)

theorem pass_metered (handler : Handler σ) (state : σ) : Metered (pass.trace handler state) := by
  have goes := pass_goes handler state
  generalize pass.trace handler state = events at goes
  generalize pass.run handler state = outcome at goes
  have listed (answer : Except Failure (List Cluster)) :
      Metered [⟨.cluster .listAllRecords, answer⟩] :=
    .of_idle (List.forall_mem_singleton.mpr ⟨rfl, rfl, nofun⟩)
  have read (answer : Except Failure (List String)) :
      Metered [⟨.cluster .listManagedIds, answer⟩] :=
    .of_idle (List.forall_mem_singleton.mpr ⟨rfl, rfl, nofun⟩)
  cases goes with
  | unlisted => exact listed _
  | empty => exact listed _
  | unread => exact (listed _).append (read _)
  | repairs => exact (listed _).append ((read _).append (repair_metered _ _ _ _))

end Overlay

namespace Pass

variable {settings : Settings} {config : Config} {began reached : σ}
  {result : Except Failure Action}

/-- What a reconciliation has measured: the total if it was counted, and one duration if the
configuration was acted upon, with the label of how the pass went. -/
structure Measured (handler : Handler σ) (settings : Settings) (config : Config) (began : σ)
    (result : Except Failure Action) (events : List Event) : Prop where
  booked : Booked events
  totals : (measurements events).filterMap Measurement.total? =
    (countAnswer handler began).toOption.toList.map gaugeOf
  idle : Idle config → (measurements events).filterMap Measurement.pass? = []
  active : ¬ Idle config → ∃ space outcome, config.metadata.space = some space ∧
    (measurements events).filterMap Measurement.pass? = [(space, outcome)] ∧
      Went handler settings config space (afterCount handler began) result outcome

theorem reconcile_measured
    (ended : (reconcile settings config).execute handler began = (.ok result, reached)) :
    Measured handler settings config began result
      ((reconcile settings config).trace handler began) := by
  rw [execute_reconcile] at ended
  rw [trace_reconcile]
  by_cases idle : Idle config
  · obtain ⟨answer, same⟩ := proceed_of_idle settings idle
    rw [same, Routine.trace_ofExcept, List.append_nil]
    exact ⟨countEvents_booked _, countEvents_totals _, fun _ => countEvents_passes _,
      fun active => absurd idle active⟩
  · obtain ⟨space, placed, same⟩ := proceed_of_active settings idle
    rw [same] at ended ⊢
    obtain ⟨outcome, went, performed⟩ := runMeasured_ends ended
    have metered := run_metered handler settings config space (afterCount handler began)
    have duration : Booked [⟨.measure (.passDuration space outcome), ()⟩] := rfl
    rw [performed]
    refine ⟨(countEvents_booked _).append (metered.booked.append duration), ?_,
      fun idles => absurd idles idle, fun _ => ⟨space, outcome, placed, ?_, went⟩⟩
    · rw [measurements_append, measurements_append, List.filterMap_append, List.filterMap_append,
        metered.totals, countEvents_totals]
      exact List.append_nil _
    · rw [measurements_append, measurements_append, List.filterMap_append, List.filterMap_append,
        metered.passes, countEvents_passes]
      rfl

structure Unnoticed {ν : Type} (handler : Handler σ) (view : σ → ν) : Prop where
  reads : handler.Reads view
  hidden : ∀ total state, view (handler (.measure (.configTotal total)) state).2 = view state

end Pass

def Handler.counting (handler : Handler σ) (answer : Except Failure Nat) : Handler σ
  | .cluster .countConfigs, state => (answer, (handler (.cluster .countConfigs) state).2)
  | effect, state => handler effect state

namespace Pass

variable {ν : Type} {view : σ → ν}

theorem counting_of_ne (handler : Handler σ) (answer : Except Failure Nat) {effect : Effect}
    (other : effect ≠ .cluster .countConfigs) (state : σ) :
    handler.counting answer effect state = handler effect state := by
  cases effect with
  | cluster call => cases call <;> first | rfl | exact absurd rfl other
  | _ => rfl

theorem view_afterCount_counting (unnoticed : Unnoticed handler view)
    (answer : Except Failure Nat) (state : σ) :
    view (afterCount (handler.counting answer) state) =
      view (handler (.cluster .countConfigs) state).2 := by
  cases answer with
  | ok count => exact unnoticed.hidden _ _
  | error failure => rfl

theorem proceed_counting (settings : Settings) (config : Config) (handler : Handler σ)
    (answer : Except Failure Nat) (state : σ) :
    (proceed settings config).execute (handler.counting answer) state =
        (proceed settings config).execute handler state ∧
      (proceed settings config).trace (handler.counting answer) state =
        (proceed settings config).trace handler state :=
  Program.run_congr fun _ performed =>
    counting_of_ne handler answer (uncounted_proceed performed)

/-- Whatever the count is answered, the rest is the same. -/
theorem reconcile_counting (unnoticed : Unnoticed handler view) (settings : Settings)
    (config : Config) (began : σ) (answer : Except Failure Nat) :
    ((reconcile settings config).execute (handler.counting answer) began).1 =
        ((proceed settings config).execute handler
          (handler (.cluster .countConfigs) began).2).1 ∧
      view ((reconcile settings config).execute (handler.counting answer) began).2 =
        view ((proceed settings config).execute handler
          (handler (.cluster .countConfigs) began).2).2 ∧
      (reconcile settings config).trace (handler.counting answer) began =
        countEvents answer ++
          (proceed settings config).trace handler (handler (.cluster .countConfigs) began).2 := by
  obtain ⟨sameRun, sameTrace⟩ := proceed_counting settings config handler answer
    (afterCount (handler.counting answer) began)
  rw [execute_reconcile, trace_reconcile, sameRun, sameTrace]
  obtain ⟨sameEnd, sameView, sameRest⟩ := Program.run_of_view_eq unnoticed.reads
    (ExceptT.run (proceed settings config)) (view_afterCount_counting unnoticed answer began)
  exact ⟨sameEnd, sameView, congrArg _ sameRest⟩

end Pass

inductive Job where
  | reconcile (settings : Settings) (config : Config)
  | overlay

namespace Job

def trace (handler : Handler σ) (state : σ) : Job → List Event
  | .reconcile settings config => (Pass.reconcile settings config).trace handler state
  | .overlay => Overlay.pass.trace handler state

def after (handler : Handler σ) (state : σ) : Job → σ
  | .reconcile settings config => ((Pass.reconcile settings config).execute handler state).2
  | .overlay => (Overlay.pass.run handler state).2

def traceAll (handler : Handler σ) : σ → List Job → List Event
  | _, [] => []
  | state, job :: rest => job.trace handler state ++ traceAll handler (job.after handler state) rest

def Ends (handler : Handler σ) (state : σ) : Job → Prop
  | .reconcile settings config =>
      ∃ result, ((Pass.reconcile settings config).execute handler state).1 = .ok result
  | .overlay => True

def AllEnd (handler : Handler σ) : σ → List Job → Prop
  | _, [] => True
  | state, job :: rest => job.Ends handler state ∧ AllEnd handler (job.after handler state) rest

instance (handler : Handler σ) (state : σ) : (job : Job) → Decidable (job.Ends handler state)
  | .overlay => isTrue trivial
  | .reconcile settings config =>
      match ended : ((Pass.reconcile settings config).execute handler state).1 with
      | .ok result => isTrue ⟨result, ended⟩
      | .error _ => isFalse fun ⟨_, other⟩ => by
          rw [ended] at other
          cases other

instance decidableAllEnd (handler : Handler σ) (state : σ) :
    (jobs : List Job) → Decidable (AllEnd handler state jobs)
  | [] => isTrue trivial
  | job :: rest =>
      have := decidableAllEnd handler (job.after handler state) rest
      inferInstanceAs (Decidable (_ ∧ _))

/-- The passes that jobs run one after the other, with the labels of how they went. -/
inductive Runs (handler : Handler σ) : σ → List Job → List (String × PassOutcome) → Prop where
  | nothing (state : σ) : Runs handler state [] []
  | overlaid {state : σ} {jobs : List Job} {passes : List (String × PassOutcome)}
      (later : Runs handler (overlay.after handler state) jobs passes) :
      Runs handler state (.overlay :: jobs) passes
  | ignored {state : σ} {settings : Settings} {config : Config} {jobs : List Job}
      {passes : List (String × PassOutcome)} (idle : Pass.Idle config)
      (later : Runs handler ((reconcile settings config).after handler state) jobs passes) :
      Runs handler state (.reconcile settings config :: jobs) passes
  | ran {state : σ} {settings : Settings} {config : Config} {space : String}
      {result : Except Failure Action} {outcome : PassOutcome} {jobs : List Job}
      {passes : List (String × PassOutcome)} (active : ¬ Pass.Idle config)
      (placed : config.metadata.space = some space)
      (ended : ((Pass.reconcile settings config).execute handler state).1 = .ok result)
      (went : Pass.Went handler settings config space (Pass.afterCount handler state) result outcome)
      (later : Runs handler ((reconcile settings config).after handler state) jobs passes) :
      Runs handler state (.reconcile settings config :: jobs) ((space, outcome) :: passes)

variable {jobs : List Job} {passes : List (String × PassOutcome)}

theorem overlay_metered (handler : Handler σ) (state : σ) :
    Metered (overlay.trace handler state) := Overlay.pass_metered handler state

theorem Ends.measured {settings : Settings} {config : Config}
    (ends : (reconcile settings config).Ends handler state) :
    ∃ result, ((Pass.reconcile settings config).execute handler state).1 = .ok result ∧
      Pass.Measured handler settings config state result
        ((reconcile settings config).trace handler state) := by
  obtain ⟨result, ended⟩ := ends
  exact ⟨result, ended, Pass.reconcile_measured (Prod.ext ended rfl)⟩

theorem Ends.booked {job : Job} (ends : job.Ends handler state) :
    Booked (job.trace handler state) := by
  cases job with
  | overlay => exact (overlay_metered handler state).booked
  | reconcile settings config =>
      obtain ⟨_result, _ended, measured⟩ := ends.measured
      exact measured.booked

theorem booked_traceAll (ends : AllEnd handler state jobs) :
    Booked (traceAll handler state jobs) := by
  induction jobs generalizing state with
  | nil => exact .nil
  | cons job rest ih => exact ends.1.booked.append (ih ends.2)

theorem runs_measured (ends : AllEnd handler state jobs) : Runs handler state jobs
    ((measurements (traceAll handler state jobs)).filterMap Measurement.pass?) := by
  induction jobs generalizing state with
  | nil => exact .nothing state
  | cons job rest ih =>
      obtain ⟨endsFirst, endLater⟩ := ends
      have later := ih endLater
      rw [traceAll, measurements_append, List.filterMap_append]
      cases job with
      | overlay =>
          rw [(overlay_metered handler state).passes]
          exact .overlaid later
      | reconcile settings config =>
          obtain ⟨result, ended, measured⟩ := endsFirst.measured
          by_cases idle : Pass.Idle config
          · rw [measured.idle idle]
            exact .ignored idle later
          · obtain ⟨space, outcome, placed, one, went⟩ := measured.active idle
            rw [one]
            exact .ran idle placed ended went later

theorem Runs.unique {others : List (String × PassOutcome)} (runs : Runs handler state jobs passes)
    (also : Runs handler state jobs others) : others = passes := by
  induction runs generalizing others with
  | nothing state =>
      cases also
      rfl
  | overlaid _ ih =>
      cases also with
      | overlaid later => exact ih later
  | ignored idle _ ih =>
      cases also with
      | ignored _ later => exact ih later
      | ran active => exact absurd idle active
  | ran active placed _ went _ ih =>
      cases also with
      | ignored idle => exact absurd idle active
      | ran _ alsoPlaced _ alsoWent later =>
          rw [placed] at alsoPlaced
          cases alsoPlaced
          rw [(went.unique alsoWent).2, ih later]

end Job

/-- After any jobs that come to their ends the instruments agree with what was done, whatever the
calls in them were answered: each counter with the successful calls of its kind, the durations with
the passes that were run and with how they went, and the gauge with the last successful count.
Each reconciliation measures its own count and its own pass, and what the count is answered changes
nothing else about it. -/
theorem metrics_agree_with_calls (handler : Handler σ) (state : σ) (jobs : List Job)
    (ends : Job.AllEnd handler state jobs) :
    (∀ action, (Readings.ofEvents (Job.traceAll handler state jobs)).recordWrites action =
      (Job.traceAll handler state jobs).countP (Event.wrote action)) ∧
    (∀ managed, (Readings.ofEvents (Job.traceAll handler state jobs)).overlayUpdates managed =
      (Job.traceAll handler state jobs).countP (Event.marked managed)) ∧
    (∀ passes, passes = (Readings.ofEvents (Job.traceAll handler state jobs)).passes ↔
      Job.Runs handler state jobs passes) ∧
    (Readings.ofEvents (Job.traceAll handler state jobs)).configTotal =
      ((Job.traceAll handler state jobs).filterMap Event.counted?).getLast?.map Pass.gaugeOf ∧
    (∀ settings config began reached result,
      (Pass.reconcile settings config).execute handler began = (.ok result, reached) →
        Pass.Measured handler settings config began result
          ((Pass.reconcile settings config).trace handler began)) ∧
    (∀ {ν : Type} (view : σ → ν), Pass.Unnoticed handler view →
      ∀ settings config began answer other,
        ((Pass.reconcile settings config).execute (handler.counting answer) began).1 =
          ((Pass.reconcile settings config).execute (handler.counting other) began).1 ∧
        view ((Pass.reconcile settings config).execute (handler.counting answer) began).2 =
          view ((Pass.reconcile settings config).execute (handler.counting other) began).2 ∧
        ∃ rest,
          (Pass.reconcile settings config).trace (handler.counting answer) began =
            Pass.countEvents answer ++ rest ∧
          (Pass.reconcile settings config).trace (handler.counting other) began =
            Pass.countEvents other ++ rest) := by
  have booked := Job.booked_traceAll ends
  have runs := Job.runs_measured ends
  rw [← Readings.passes_ofEvents] at runs
  refine ⟨booked.recordWrites, booked.overlayUpdates, ?_, booked.configTotal,
    fun _ _ _ _ _ ended => Pass.reconcile_measured ended, ?_⟩
  · intro passes
    constructor
    · rintro rfl
      exact runs
    · exact fun also => runs.unique also
  · intro ν view unnoticed settings config began answer other
    obtain ⟨ended, seen, traced⟩ :=
      Pass.reconcile_counting unnoticed settings config began answer
    obtain ⟨alsoEnded, alsoSeen, alsoTraced⟩ :=
      Pass.reconcile_counting unnoticed settings config began other
    exact ⟨ended.trans alsoEnded.symm, seen.trans alsoSeen.symm, _, traced, alsoTraced⟩

namespace World

def unwritten (world : World) : World := { world with journal := .blank }

theorem handle_unwritten (effect : Effect) (world : World) :
    (handle effect world.unwritten).1 = (handle effect world).1 ∧
      (handle effect world.unwritten).2.unwritten = (handle effect world).2.unwritten := by
  cases effect with
  | cluster call =>
      change (world.unwritten.callCluster call).1 = (world.callCluster call).1 ∧
        (world.unwritten.callCluster call).2.unwritten = (world.callCluster call).2.unwritten
      have sameFaults : world.unwritten.faults = world.faults := rfl
      unfold callCluster
      rw [sameFaults]
      split
      · exact ⟨rfl, rfl⟩
      · exact ⟨rfl, rfl⟩
  | send request =>
      refine ⟨rfl, ?_⟩
      change (world.unwritten.send request).2.unwritten = (world.send request).2.unwritten
      have sameRemote : world.unwritten.remote = world.remote := rfl
      unfold send
      simp only [sameRemote]
      split
      · rfl
      · rfl
  | trigger space name =>
      have sameQueue : world.unwritten.acceptsTriggers = world.acceptsTriggers := rfl
      unfold handle
      simp only [sameQueue]
      split
      · exact ⟨rfl, rfl⟩
      · exact ⟨rfl, rfl⟩
  | _ => exact ⟨rfl, rfl⟩

/-- Nothing depends on what is written down. -/
theorem handle_reads : handle.Reads unwritten := by
  intro effect here there same
  obtain ⟨answer, left⟩ := handle_unwritten effect here
  obtain ⟨alsoAnswer, alsoLeft⟩ := handle_unwritten effect there
  rw [← answer, ← alsoAnswer, ← left, ← alsoLeft, same]
  exact ⟨rfl, rfl⟩

theorem total_unnoticed : Pass.Unnoticed handle unwritten where
  reads := handle_reads
  hidden _ _ := rfl

end World

namespace Sample

def careless : Config := { config with spec := ⟨"absent", .unrestricted⟩ }

def misnamed : Config := { config with metadata := { config.metadata with name := some "other" } }

def unruly : World :=
  { world [record "a", record "b"] with
    store := { (world [record "a", record "b"]).store with managedIds := ["b"], configCount := 2 }
    faults := [⟨.deleteRecord, none, .hub .service, 1, 1⟩] }

def jobs : List Job :=
  [.reconcile .standard careless, .overlay, .reconcile .standard misnamed,
    .reconcile .standard careless]

end Sample

/-- A cleanup is cut short behind its first delete, and another one finishes it. The first one
would end alike if the count failed. -/
theorem metrics_agree_with_calls_sample :
    Job.AllEnd World.handle Sample.unruly Sample.jobs ∧
    (Readings.ofEvents (Job.traceAll World.handle Sample.unruly Sample.jobs)).recordWrites .delete =
      2 ∧
    (Readings.ofEvents (Job.traceAll World.handle Sample.unruly Sample.jobs)).overlayUpdates true =
      1 ∧
    (Readings.ofEvents (Job.traceAll World.handle Sample.unruly Sample.jobs)).configTotal =
      some 2 ∧
    Job.Runs World.handle Sample.unruly Sample.jobs [("ns", .error), ("ns", .cleanup)] ∧
    ((Pass.reconcile .standard Sample.careless).execute
        (World.handle.counting (.error (.internal "timeout"))) Sample.unruly).1 =
      ((Pass.reconcile .standard Sample.careless).execute (World.handle.counting (.ok 2))
        Sample.unruly).1 := by
  have ends : Job.AllEnd World.handle Sample.unruly Sample.jobs := by decide +kernel
  obtain ⟨writes, updates, passes, total, _measured, same⟩ :=
    metrics_agree_with_calls World.handle Sample.unruly Sample.jobs ends
  refine ⟨ends, ?_, ?_, ?_, (passes _).mp ?_, (same _ World.total_unnoticed _ _ _ _ _).1⟩
  · rw [writes]
    decide +kernel
  · rw [updates]
    decide +kernel
  · rw [total]
    decide +kernel
  · decide +kernel

end ClusterDiscovery

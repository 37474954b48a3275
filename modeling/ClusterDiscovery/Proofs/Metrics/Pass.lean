/-
Metrics of discovery passes.

A mutation is measured when it has been made, and one that fails ends the application unmeasured.
So whatever a pass has measured when it ends, however early, is what its calls call for. The
duration of the pass comes after that, and its label says how the pass went: it applied, cleaned
up, or stood back from a hiccup of the remote side, or else it returns a failure. The
configurations are counted before all that, and what the count is answered makes no difference to
the rest.
-/

import ClusterDiscovery.Proofs.Metrics.Readings
import ClusterDiscovery.Proofs.Pass.Abort

namespace ClusterDiscovery

variable {α β σ : Type} {handler : Handler σ} {state reached : σ}

theorem Metered.bind {routine : Routine α} {next : α → Routine β}
    (first : Metered (routine.trace handler state))
    (later : ∀ value reached, Metered ((next value).trace handler reached)) :
    Metered ((routine >>= next).trace handler state) := by
  rw [Routine.trace_bind]
  refine first.append ?_
  split
  · exact later _ _
  · exact .nil

theorem Metered.of_inquiries {events : List Event}
    (inquiries : ∀ event ∈ events, event.effect.isInquiry = true) : Metered events := by
  refine .of_idle fun event performed => ?_
  have inquiry := inquiries event performed
  obtain ⟨effect, answer⟩ := event
  cases effect with
  | cluster call =>
      cases call with
      | getSecret space name => exact ⟨rfl, rfl, nofun⟩
      | setAuthMethod space name method => exact ⟨rfl, rfl, nofun⟩
      | _ => cases inquiry
  | send request => exact ⟨rfl, rfl, nofun⟩
  | now => exact ⟨rfl, rfl, nofun⟩
  | _ => cases inquiry

theorem Mutation.apply_metered (mutation : Mutation) (space : String) (state : σ) :
    Metered ((mutation.apply space).trace handler state) := by
  cases answered : (handler (.cluster (mutation.call space)) state).1 with
  | error failure =>
      rw [trace_apply_of_error answered]
      refine .of_idle (List.forall_mem_singleton.mpr ⟨?_, rfl, ?_⟩)
      · cases mutation <;> rfl
      · cases mutation <;> exact nofun
  | ok result =>
      rw [trace_apply_of_ok answered]
      constructor
      · cases mutation <;> rfl
      · refine List.forall_mem_cons.mpr ⟨?_, List.forall_mem_singleton.mpr nofun⟩
        cases mutation <;> exact nofun

theorem Plan.applyAll_metered (space : String) (mutations : List Mutation) (state : σ) :
    Metered ((applyAll space mutations).trace handler state) := by
  induction mutations generalizing state with
  | nil => exact .nil
  | cons mutation rest ih =>
      rw [applyAll_cons]
      exact (mutation.apply_metered space state).bind fun _ reached => ih reached

namespace Pass

variable {settings : Settings} {config : Config} {space : String}

theorem metered_listing {next : List Cluster → Routine α}
    (later : ∀ listing reached, Metered ((next listing).trace handler reached)) :
    Metered ((Routine.call (.listRecords space) >>= next).trace handler state) := by
  refine Metered.bind ?_ later
  rw [Routine.trace_call]
  exact .of_idle (List.forall_mem_singleton.mpr ⟨rfl, rfl, nofun⟩)

theorem removeAll_metered (space : String) (state : σ) :
    Metered ((removeAll space).trace handler state) :=
  metered_listing fun _ reached => Plan.applyAll_metered space _ reached

theorem converge_metered (canonical : Keyed ClusterSpec) (state : σ) :
    Metered ((converge config space canonical).trace handler state) := by
  refine metered_listing fun existing listed => ?_
  refine (Plan.applyAll_metered space _ listed).bind fun _ applied => ?_
  change Metered [⟨.nudge, _⟩]
  exact .of_idle (List.forall_mem_singleton.mpr ⟨rfl, rfl, nofun⟩)

theorem conclude_metered (result : Except Failure (Keyed ClusterSpec)) (state : σ) :
    Metered ((conclude settings config space result).trace handler state) := by
  cases result with
  | ok canonical => exact (converge_metered canonical state).bind fun _ _ => .nil
  | error failure =>
      unfold conclude
      simp only
      split
      · exact (removeAll_metered space state).bind fun _ _ => .nil
      · split
        · exact .nil
        · exact .nil

theorem run_metered (handler : Handler σ) (settings : Settings) (config : Config) (space : String)
    (state : σ) :
    Metered ((run settings config space).trace handler state) := by
  rw [run_eq]
  refine Metered.bind ?_ fun result reached => conclude_metered result reached
  rw [Routine.trace_attempt]
  exact .of_inquiries fun event member => isInquiry_of_mem_trace_discover member

/-- How a pass went: what it returns, and the label of its duration. -/
inductive Went (handler : Handler σ) (settings : Settings) (config : Config) (space : String)
    (state : σ) : Except Failure Action → PassOutcome → Prop where
  | applied {canonical : Keyed ClusterSpec} {discovered reached : σ}
      (found : (discover settings config space).execute handler state =
        (.ok (.ok canonical), discovered))
      (converged : (converge config space canonical).execute handler discovered =
        (.ok (.ok ()), reached)) :
      Went handler settings config space state (.ok (.requeue settings.refreshSecs)) .applied
  | unapplied {canonical : Keyed ClusterSpec} {failure : Failure} {discovered reached : σ}
      (found : (discover settings config space).execute handler state =
        (.ok (.ok canonical), discovered))
      (failed : (converge config space canonical).execute handler discovered =
        (.ok (.error failure), reached)) :
      Went handler settings config space state (.error failure) .error
  | cleaned {discovered reached : σ}
      (unusable : CleansUp handler settings config space state discovered)
      (removed : (removeAll space).execute handler discovered = (.ok (.ok ()), reached)) :
      Went handler settings config space state (.ok (.requeue settings.refreshSecs)) .cleanup
  | uncleaned {failure : Failure} {discovered reached : σ}
      (unusable : CleansUp handler settings config space state discovered)
      (failed : (removeAll space).execute handler discovered = (.ok (.error failure), reached)) :
      Went handler settings config space state (.error failure) .error
  | aborted {failure : Failure} {discovered : σ}
      (unfound : (discover settings config space).execute handler state =
        (.ok (.error failure), discovered))
      (harmless : failure.requiresCleanup = false) (transient : failure.isTransient = true) :
      Went handler settings config space state (.ok (.requeue settings.transientRetrySecs))
        .transient
  | failed {failure : Failure} {discovered : σ}
      (unfound : (discover settings config space).execute handler state =
        (.ok (.error failure), discovered))
      (harmless : failure.requiresCleanup = false) (lasting : failure.isTransient = false) :
      Went handler settings config space state (.error failure) .error

theorem execute_run_of_found {canonical : Keyed ClusterSpec} {discovered : σ}
    (found : (discover settings config space).execute handler state =
      (.ok (.ok canonical), discovered)) {result : Except Failure Unit}
    (converged : (converge config space canonical).execute handler discovered =
      (.ok result, reached)) :
    (run settings config space).execute handler state =
      (.ok (result.map fun _ => (.requeue settings.refreshSecs, .applied)), reached) := by
  rw [execute_run_of_discovered found, Routine.execute_bind, converged]
  cases result <;> rfl

theorem execute_run_of_unusable {discovered : σ}
    (unusable : CleansUp handler settings config space state discovered)
    {result : Except Failure Unit}
    (removed : (removeAll space).execute handler discovered = (.ok result, reached)) :
    (run settings config space).execute handler state =
      (.ok (result.map fun _ => (.requeue settings.refreshSecs, .cleanup)), reached) := by
  rw [execute_run_of_cleansUp unusable, Routine.execute_bind, removed]
  cases result <;> rfl

theorem execute_run_of_harmless {failure : Failure} {discovered : σ}
    (unfound : (discover settings config space).execute handler state =
      (.ok (.error failure), discovered))
    (harmless : failure.requiresCleanup = false) :
    (run settings config space).execute handler state =
      (.ok (if failure.isTransient then .ok (.requeue settings.transientRetrySecs, .transient)
        else .error failure), discovered) := by
  unfold run
  rw [Routine.execute_bind_of_ok (Routine.execute_attempt_of_ok unfound)]
  simp only [harmless, Bool.false_eq_true, if_false]
  split <;> rfl

theorem Went.execute_run {returned : Except Failure Action} {outcome : PassOutcome}
    (went : Went handler settings config space state returned outcome) :
    ∃ result reached, (run settings config space).execute handler state = (.ok result, reached) ∧
      returned = result.map Prod.fst ∧ outcome = measuredOutcome result := by
  cases went with
  | applied found converged => exact ⟨_, _, execute_run_of_found found converged, rfl, rfl⟩
  | unapplied found failed => exact ⟨_, _, execute_run_of_found found failed, rfl, rfl⟩
  | cleaned unusable removed => exact ⟨_, _, execute_run_of_unusable unusable removed, rfl, rfl⟩
  | uncleaned unusable failed => exact ⟨_, _, execute_run_of_unusable unusable failed, rfl, rfl⟩
  | aborted unfound harmless transient =>
      refine ⟨_, _, execute_run_of_harmless unfound harmless, ?_, ?_⟩
      all_goals rw [if_pos transient]; rfl
  | failed unfound harmless lasting =>
      refine ⟨_, _, execute_run_of_harmless unfound harmless, ?_, ?_⟩
      all_goals rw [if_neg (ne_true_of_eq_false lasting)]; rfl

/-- A pass went in one way only. -/
theorem Went.unique {returned also : Except Failure Action} {outcome other : PassOutcome}
    (went : Went handler settings config space state returned outcome)
    (alsoWent : Went handler settings config space state also other) :
    also = returned ∧ other = outcome := by
  obtain ⟨result, reached, ended, rfl, rfl⟩ := went.execute_run
  obtain ⟨same, final, alsoEnded, rfl, rfl⟩ := alsoWent.execute_run
  rw [ended] at alsoEnded
  cases alsoEnded
  exact ⟨rfl, rfl⟩

theorem went_of_execute_run {result : Except Failure (Action × PassOutcome)}
    (ended : (run settings config space).execute handler state = (.ok result, reached)) :
    Went handler settings config space state (result.map Prod.fst) (measuredOutcome result) := by
  rcases found : (discover settings config space).execute handler state with ⟨ending, discovered⟩
  rcases ending with reason | canonical
  · rw [run_eq, Routine.execute_bind, Routine.execute_attempt, found] at ended
    cases ended
  rcases canonical with failure | canonical
  · by_cases cleanup : failure.requiresCleanup = true
    · have unusable : CleansUp handler settings config space state discovered :=
        ⟨failure, found, cleanup⟩
      rcases removed : (removeAll space).execute handler discovered with ⟨ending, final⟩
      rcases ending with reason | removal
      · rw [execute_run_of_cleansUp unusable, Routine.execute_bind, removed] at ended
        cases ended
      · rw [execute_run_of_unusable unusable removed] at ended
        cases ended
        cases removal with
        | error failure => exact .uncleaned unusable removed
        | ok done => exact .cleaned unusable removed
    · have harmless := eq_false_of_ne_true cleanup
      rw [execute_run_of_harmless found harmless] at ended
      cases ended
      cases transient : failure.isTransient with
      | true => exact .aborted found harmless transient
      | false => exact .failed found harmless transient
  · rcases converged : (converge config space canonical).execute handler discovered with
      ⟨ending, final⟩
    rcases ending with reason | application
    · rw [execute_run_of_discovered found, Routine.execute_bind, converged] at ended
      cases ended
    · rw [execute_run_of_found found converged] at ended
      cases ended
      cases application with
      | error failure => exact .unapplied found converged
      | ok done => exact .applied found converged

/-- A measured pass that ends has recorded one duration, behind everything else. -/
theorem runMeasured_ends {returned : Except Failure Action}
    (ended : (runMeasured settings config space).execute handler state = (.ok returned, reached)) :
    ∃ outcome, Went handler settings config space state returned outcome ∧
      (runMeasured settings config space).trace handler state =
        (run settings config space).trace handler state ++
          [⟨.measure (.passDuration space outcome), ()⟩] := by
  unfold runMeasured at ended ⊢
  rcases ran : (run settings config space).execute handler state with ⟨ending, final⟩
  rcases ending with reason | result
  · rw [Routine.execute_bind, Routine.execute_attempt, ran] at ended
    cases ended
  · have attempted := Routine.execute_attempt_of_ok ran
    rw [Routine.execute_bind_of_ok attempted] at ended
    refine ⟨measuredOutcome result, ?_, ?_⟩
    · have sameResult : result.map Prod.fst = returned :=
        Except.ok.inj (congrArg Prod.fst ended)
      rw [← sameResult]
      exact went_of_execute_run ran
    · rw [Routine.trace_bind_of_ok attempted, Routine.trace_attempt]
      rfl

/-- What follows the count of the configurations. -/
def proceed (settings : Settings) (config : Config) : Routine Action :=
  if !config.isReconcilable then pure .awaitChange
  else if config.problem?.isSome then pure .awaitChange
  else
    match config.metadata.space with
    | none => Routine.ofExcept (.error (.internal "DiscoveryConfig has no namespace"))
    | some space => runMeasured settings config space

theorem reconcile_eq (settings : Settings) (config : Config) :
    reconcile settings config = measureConfigs >>= fun _ => proceed settings config := rfl

theorem proceed_of_idle (settings : Settings) (idle : Idle config) :
    ∃ result, proceed settings config = Routine.ofExcept result := by
  unfold proceed
  split_ifs with other problem
  · exact ⟨.ok .awaitChange, rfl⟩
  · exact ⟨.ok .awaitChange, rfl⟩
  · rcases idle with unconventional | invalid | nowhere
    · simp [unconventional] at other
    · exact absurd invalid problem
    · rw [nowhere]
      exact ⟨_, rfl⟩

theorem proceed_of_active (settings : Settings) (active : ¬ Idle config) :
    ∃ space, config.metadata.space = some space ∧
      proceed settings config = runMeasured settings config space := by
  unfold Idle at active
  rw [not_or, not_or, Bool.not_eq_false] at active
  obtain ⟨conventional, valid, somewhere⟩ := active
  obtain ⟨space, placed⟩ := Option.ne_none_iff_exists'.mp somewhere
  refine ⟨space, placed, ?_⟩
  unfold proceed
  rw [conventional, placed, if_neg (by decide), if_neg valid]

theorem uncounted_proceed {event : Event}
    (member : event ∈ (proceed settings config).trace handler state) :
    event.effect ≠ .cluster .countConfigs := by
  by_cases idle : Idle config
  · obtain ⟨result, same⟩ := proceed_of_idle settings idle
    rw [same] at member
    cases member
  · obtain ⟨space, _placed, same⟩ := proceed_of_active settings idle
    rw [same] at member
    unfold runMeasured at member
    rcases Routine.mem_trace_bind member with early | ⟨result, reached, _ended, late⟩
    · rw [Routine.trace_attempt] at early
      exact (run_metered handler settings config space state).uncounted event early
    · have last : event ∈ [⟨.measure (.passDuration space (measuredOutcome result)), ()⟩] := late
      rw [List.mem_singleton.mp last]
      exact nofun

def countEvents : Except Failure Nat → List Event
  | .ok count =>
      [⟨.cluster .countConfigs, Except.ok count⟩, ⟨.measure (.configTotal (gaugeOf count)), ()⟩]
  | .error failure => [⟨.cluster .countConfigs, Except.error failure⟩]

theorem countEvents_booked (answer : Except Failure Nat) : Booked (countEvents answer) := by
  cases answer <;> rfl

theorem countEvents_totals (answer : Except Failure Nat) :
    (measurements (countEvents answer)).filterMap Measurement.total? =
      answer.toOption.toList.map gaugeOf := by
  cases answer <;> rfl

theorem countEvents_passes (answer : Except Failure Nat) :
    (measurements (countEvents answer)).filterMap Measurement.pass? = [] := by
  cases answer <;> rfl

def countAnswer (handler : Handler σ) (state : σ) : Except Failure Nat :=
  (handler (.cluster .countConfigs) state).1

def afterCount (handler : Handler σ) (state : σ) : σ :=
  match countAnswer handler state with
  | .ok count =>
      (handler (.measure (.configTotal (gaugeOf count)))
        (handler (.cluster .countConfigs) state).2).2
  | .error _ => (handler (.cluster .countConfigs) state).2

theorem measureConfigs_ends (handler : Handler σ) (state : σ) :
    measureConfigs.execute handler state = (.ok (.ok ()), afterCount handler state) ∧
      measureConfigs.trace handler state = countEvents (countAnswer handler state) := by
  have called : (Routine.call .countConfigs).execute handler state =
      (.ok (countAnswer handler state), (handler (.cluster .countConfigs) state).2) := rfl
  have answered := Routine.execute_attempt_of_ok called
  unfold measureConfigs afterCount
  rw [Routine.execute_bind_of_ok answered, Routine.trace_bind_of_ok answered,
    Routine.trace_attempt, Routine.trace_call]
  change _ ∧ ([⟨.cluster .countConfigs, countAnswer handler state⟩] : List Event) ++ _ = _
  cases countAnswer handler state with
  | ok count => exact ⟨rfl, rfl⟩
  | error failure => exact ⟨rfl, rfl⟩

theorem execute_reconcile (settings : Settings) (config : Config) (handler : Handler σ)
    (state : σ) : (reconcile settings config).execute handler state =
      (proceed settings config).execute handler (afterCount handler state) := by
  rw [reconcile_eq, Routine.execute_bind_of_ok (measureConfigs_ends handler state).1]

theorem trace_reconcile (settings : Settings) (config : Config) (handler : Handler σ)
    (state : σ) : (reconcile settings config).trace handler state =
      countEvents (countAnswer handler state) ++
        (proceed settings config).trace handler (afterCount handler state) := by
  rw [reconcile_eq, Routine.trace_bind_of_ok (measureConfigs_ends handler state).1,
    (measureConfigs_ends handler state).2]

end Pass

end ClusterDiscovery

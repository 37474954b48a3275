/-
What stops a pass for reasons of time.

Nothing but the cutoff does: a pass stops short exactly when it has read the clock at a time
from which the bound of the filter is out of reach. That a routine is timely in this sense is
kept by sequencing and by attempts, so it is enough to look at the one place where the clock
is read. A filter may be valid and its bound out of reach all the same.
-/

import ClusterDiscovery.Pass.Basic
import ClusterDiscovery.Proofs.Inventory.Cutoff
import ClusterDiscovery.Proofs.Program.Execution
import ClusterDiscovery.Proofs.World.Keeper

namespace ClusterDiscovery

variable {α β : Type}

/-- A routine stops for reasons of time exactly when it reads the clock at a time from which
the bound of a filter is out of reach. -/
structure Routine.Timely (filter : Filter) (routine : Routine α) : Prop where
  halts_iff : ∀ {σ : Type} (handler : Handler σ) (state : σ),
    (∃ reached, routine.execute handler state = (.error .timeOutOfRange, reached)) ↔
      ∃ now, ⟨.now, now⟩ ∈ routine.trace handler state ∧ filter.OutOfReach now

namespace Routine

variable {filter : Filter}

theorem Timely.bind {routine : Routine α} {next : α → Routine β} (first : Timely filter routine)
    (second : ∀ value, Timely filter (next value)) : Timely filter (routine >>= next) where
  halts_iff := by
    intro σ handler state
    have halts := first.halts_iff handler state
    rw [execute_bind, trace_bind]
    rcases ended : routine.execute handler state with ⟨outcome, reached⟩
    rw [ended] at halts
    cases outcome with
    | error reason =>
        simpa using halts
    | ok result =>
        have early : ¬ ∃ now, ⟨.now, now⟩ ∈ routine.trace handler state ∧
            filter.OutOfReach now := by
          rw [← halts]
          rintro ⟨other, impossible⟩
          cases impossible
        cases result with
        | error failure => simpa using early
        | ok value =>
            have later := (second value).halts_iff handler reached
            simp only [List.mem_append]
            rw [later]
            constructor
            · rintro ⟨now, read, beyond⟩
              exact ⟨now, Or.inr read, beyond⟩
            · rintro ⟨now, before | read, beyond⟩
              · exact absurd ⟨now, before, beyond⟩ early
              · exact ⟨now, read, beyond⟩

theorem Timely.attempt {routine : Routine α} (timely : Timely filter routine) :
    Timely filter (attempt routine) where
  halts_iff := by
    intro σ handler state
    rw [trace_attempt, ← timely.halts_iff handler state, execute_attempt]
    rcases routine.execute handler state with ⟨outcome, reached⟩
    cases outcome <;> simp

theorem timely_ofExcept (result : Except Failure α) : Timely filter (ofExcept result) where
  halts_iff := by
    intro σ handler state
    simp

theorem timely_pure (value : α) : Timely filter (pure value : Routine α) where
  halts_iff := by
    intro σ handler state
    simp

theorem timely_perform (effect : Effect) (other : effect ≠ .now) :
    Timely filter (perform effect) where
  halts_iff := by
    intro σ handler state
    simp only [execute_perform, trace_perform, List.mem_singleton]
    constructor
    · rintro ⟨reached, impossible⟩
      cases impossible
    · rintro ⟨now, same, _beyond⟩
      exact absurd (congrArg Event.effect same).symm other

theorem timely_call (c : ClusterCall) : Timely filter (call c) where
  halts_iff := by
    intro σ handler state
    simp only [execute_call, trace_call, List.mem_singleton]
    constructor
    · rintro ⟨reached, impossible⟩
      cases impossible
    · rintro ⟨now, same, _beyond⟩
      cases congrArg Event.effect same

theorem timely_orHalt {reason : Halt} {value : Option α}
    (other : value = none → reason ≠ .timeOutOfRange) : Timely filter (orHalt reason value) where
  halts_iff := by
    intro σ handler state
    cases value with
    | none =>
        constructor
        · rintro ⟨reached, halted⟩
          exact absurd (Except.error.inj (congrArg Prod.fst halted)) (other rfl)
        · rintro ⟨now, impossible, _beyond⟩
          cases impossible
    | some found => exact (timely_pure found).halts_iff handler state

end Routine

open Routine

variable {filter : Filter} {settings : Settings} {config : Config} {space : String}

private theorem Inventory.fetch_timely (request : ListingRequest) :
    Timely filter (fetch request) := by
  have pages (limit number : Nat) : Timely filter (fetchFrom request limit number) := by
    induction limit generalizing number with
    | zero =>
        refine timely_orHalt fun _ => ?_
        intro same
        cases same
    | succ limit ih =>
        unfold fetchFrom
        refine (timely_perform (.send _) (by intro same; cases same)).bind fun reply => ?_
        refine (timely_ofExcept _).bind fun page => ?_
        split
        · exact timely_pure _
        · exact (ih _).bind fun rest => timely_pure _
  unfold fetch
  split
  · exact timely_ofExcept _
  · exact pages _ _

private theorem Plan.apply_timely (plan : Plan) : Timely filter (plan.apply space) := by
  have all (mutations : List Mutation) : Timely filter (applyAll space mutations) := by
    induction mutations with
    | nil => exact timely_pure _
    | cons mutation rest ih =>
        refine Timely.bind (Timely.bind (Timely.attempt ?_) fun result => ?_) fun _ => ih
        · cases mutation <;> exact timely_call _
        · cases result
          · exact timely_ofExcept _
          · exact timely_perform (.measure _) nofun
  exact all _

namespace Pass

theorem execute_inquire_of_outOfReach {σ : Type} {handler : Handler σ} {state : σ}
    {token : String} {now : Time.Instant} (beyond : config.spec.filters.OutOfReach now) :
    (inquire settings config space token now).execute handler state =
      (.error .timeOutOfRange, state) := by
  unfold inquire
  rw [Filter.searchTerm?_eq_none_iff.mpr beyond]
  rfl

theorem inquire_timely {token : String} {now : Time.Instant}
    (within : ¬ config.spec.filters.OutOfReach now) :
    Timely config.spec.filters (inquire settings config space token now) := by
  unfold inquire
  refine (timely_orHalt fun unbounded => ?_).bind fun search => ?_
  · exact absurd (Filter.searchTerm?_eq_none_iff.mp unbounded) within
  refine (Inventory.fetch_timely _).bind fun subscriptions => timely_orHalt fun unbounded => ?_
  have noCutoff := Option.map_eq_none_iff.mp unbounded
  exact absurd (Filter.cutoff?_eq_none_iff.mp noCutoff) within

theorem search_timely (token : String) :
    Timely config.spec.filters (search settings config space token) where
  halts_iff := by
    intro σ handler state
    unfold search
    have read : (Routine.perform .now).execute handler state =
        (.ok (.ok (handler .now state).1), (handler .now state).2) := execute_perform _
    rw [execute_bind_of_ok read, trace_bind_of_ok read, trace_perform]
    by_cases beyond : config.spec.filters.OutOfReach (handler .now state).1
    · have halted : (inquire settings config space token (handler .now state).1).execute handler
          (handler .now state).2 = _ := execute_inquire_of_outOfReach beyond
      exact ⟨fun _ => ⟨_, List.mem_cons_self, beyond⟩, fun _ => ⟨_, halted⟩⟩
    · rw [(inquire_timely beyond).halts_iff]
      simp only [List.cons_append, List.nil_append, List.mem_cons]
      constructor
      · rintro ⟨now, later, outside⟩
        exact ⟨now, Or.inr later, outside⟩
      · rintro ⟨now, same | later, outside⟩
        · cases same
          exact absurd outside beyond
        · exact ⟨now, later, outside⟩

theorem discover_timely : Timely config.spec.filters (discover settings config space) := by
  rw [discover_eq]
  refine Timely.bind ?_ fun resolved => Timely.bind ?_ fun _ => Timely.bind ?_ fun token =>
    search_timely token
  · unfold resolveCredential
    simp only
    split
    · exact timely_ofExcept _
    · refine (timely_call _).bind fun found => ?_
      cases found <;> exact timely_ofExcept _
  · unfold persistUpgrade
    split
    · exact (timely_call _).attempt.bind fun _ => timely_pure _
    · exact timely_pure _
  · exact (timely_perform (.send _) nofun).bind fun reply => timely_ofExcept _

theorem run_timely : Timely config.spec.filters (run settings config space) := by
  unfold run
  refine discover_timely.attempt.bind fun result => ?_
  cases result with
  | ok canonical =>
      refine Timely.bind ?_ fun _ => timely_pure _
      refine (timely_call _).bind fun existing => ?_
      exact (Plan.apply_timely _).bind fun _ => timely_perform .nudge nofun
  | error failure =>
      simp only
      split
      · refine Timely.bind ?_ fun _ => timely_pure _
        exact (timely_call _).bind fun existing => Plan.apply_timely _
      · split
        · exact timely_pure _
        · exact timely_ofExcept _

theorem reconcile_timely : Timely config.spec.filters (reconcile settings config) := by
  unfold reconcile
  refine Timely.bind ?_ fun _ => ?_
  · refine (timely_call _).attempt.bind fun counted => ?_
    cases counted
    · exact timely_pure _
    · exact timely_perform (.measure _) nofun
  split
  · exact timely_pure _
  split
  · exact timely_pure _
  split
  · exact timely_ofExcept _
  · refine run_timely.attempt.bind fun result => ?_
    exact (timely_perform (.measure _) nofun).bind fun _ => timely_ofExcept _

/-- Discovery, and the pass around it, stops for reasons of time exactly when it has read the
clock at a time from which the bound of the filter is out of reach. In the years of four
digits that never happens to a bound of up to some ninety-six million days, and to one of
more than some ninety-nine million whenever the clock is read; a filter is valid with either. -/
theorem stops_exactly_out_of_reach {σ : Type} (handler : Handler σ) (state : σ) :
    ((∃ reached, (discover settings config space).execute handler state =
        (.error .timeOutOfRange, reached)) ↔
      ∃ now, ⟨.now, now⟩ ∈ (discover settings config space).trace handler state ∧
        config.spec.filters.OutOfReach now) ∧
    ((∃ reached, (reconcile settings config).execute handler state =
        (.error .timeOutOfRange, reached)) ↔
      ∃ now, ⟨.now, now⟩ ∈ (reconcile settings config).trace handler state ∧
        config.spec.filters.OutOfReach now) ∧
    (∀ now : Time.Instant, now.HasPlainYear →
      (config.spec.filters.lastActive ≤ Inventory.surelyInReach →
        ¬ config.spec.filters.OutOfReach now) ∧
      (Inventory.possiblyInReach < config.spec.filters.lastActive →
        config.spec.filters.OutOfReach now)) ∧
    (config.problem? = none ↔
      0 ≤ config.spec.filters.lastActive ∧ config.spec.filters.firstBadVersion? = none) := by
  refine ⟨discover_timely.halts_iff handler state, reconcile_timely.halts_iff handler state,
    ?_, ?_⟩
  · intro now plain
    exact ⟨Filter.not_outOfReach plain, Filter.outOfReach plain⟩
  · exact Filter.problem?_eq_none_iff

section Sample

def boundless : Config :=
  { Sample.config with
    spec := ⟨"secret", { Filter.unrestricted with lastActive := 9223372036854775807 }⟩ }

/-- A valid configuration stops a pass that reads the clock in the year 1970. -/
theorem boundless_stops :
    boundless.isReconcilable = true ∧ boundless.problem? = none ∧
      (Sample.world []).clock.HasPlainYear ∧
      ∃ reached, (reconcile .standard boundless).execute (Sample.granting []) (Sample.world []) =
        (.error .timeOutOfRange, reached) := by
  refine ⟨by decide, by decide, by decide, _, Prod.ext ?_ rfl⟩
  decide +kernel

end Sample

end Pass

end ClusterDiscovery

/-
Resumption after failures.

An application that stops at a mutation has made those before it and none after it, and the
next plan goes on from there. What becomes of each record is the same after any number of
passes that fail, so the pass that succeeds at last ends where one pass without failures
would have ended.
-/

import ClusterDiscovery.Proofs.Pass.Convergence

namespace ClusterDiscovery

open Cluster (Distinct named? unversioned)

variable {σ : Type} {handler : Handler σ} {space : String} {held : σ → List Cluster}
  {settings : Settings} {config : Config} {canonical : Keyed ClusterSpec}

/-- A plan whose application stopped at a mutation, after the mutations before it had led
from one state to another. -/
structure Plan.Stopped (handler : Handler σ) (space : String) (held : σ → List Cluster)
    (plan : Plan) (position : Nat) (mutation : Mutation) (failure : Failure)
    (state reached stopped : σ) : Prop where
  reported : ∃ error,
    (plan.apply space).execute handler state = (.ok (.error error), stopped) ∧
    (∀ conflicting, failure = .writeConflict conflicting → error = failure) ∧
    ((∀ conflicting, failure ≠ .writeConflict conflicting) →
      error = .applyPartial mutation.action mutation.name failure)
  performed : writes ((plan.apply space).trace handler state) =
    (plan.mutations.take (position + 1)).map fun made => .cluster (made.call space)
  kept : held stopped = held reached
  revised : Revised (plan.mutations.take position) (held state) (held stopped)

theorem Plan.stopped_of_refused {plan : Plan} {position : Nat} {mutation : Mutation}
    {failure : Failure} {state reached : σ} (keeps : handler.Keeps space held)
    (inSpace : ∀ mutation ∈ plan.mutations, mutation.isIn space)
    (next : plan.mutations[position]? = some mutation)
    (ended : (applyAll space (plan.mutations.take position)).execute handler state =
      (.ok (.ok ()), reached))
    (refused : (handler (.cluster (mutation.call space)) reached).1 = Except.error failure) :
    Plan.Stopped handler space held plan position mutation failure state reached
      (handler (.cluster (mutation.call space)) reached).2 := by
  have split : plan.mutations =
      plan.mutations.take position ++ mutation :: plan.mutations.drop (position + 1) := by
    obtain ⟨inside, same⟩ := List.getElem?_eq_some_iff.mp next
    rw [← same, ← List.drop_eq_getElem_cons inside, List.take_append_drop]
  have stopped := execute_applyAll_of_error (plan.mutations.drop (position + 1)) ended refused
  have seen := trace_applyAll_of_error (plan.mutations.drop (position + 1)) ended refused
  rw [← split] at stopped seen
  refine ⟨⟨_, stopped, ?_, ?_⟩, ?_, keeps.refused mutation reached failure refused, ?_⟩
  · rintro conflicting rfl
    rfl
  · intro noConflict
    cases failure with
    | writeConflict conflicting => exact absurd rfl (noConflict conflicting)
    | _ => rfl
  · change writes ((applyAll space plan.mutations).trace handler state) = _
    rw [seen, writes_append, (trace_applyAll_of_ok ended).1, List.take_add_one, next,
      List.map_append]
    congr 1
    exact List.filter_cons_of_pos (mutation.writesRecord_call space)
  · rw [keeps.refused mutation reached failure refused]
    exact revised_of_applyAll keeps
      (fun made member => inSpace made (List.mem_of_mem_take member)) ended

namespace Pass

/-- A pass that returned a failure: it could not apply the set, or it did not get as far and
did not have to clean up. -/
inductive Failed (handler : Handler σ) (settings : Settings) (config : Config)
    (space : String) (canonical : Keyed ClusterSpec) (state failed : σ) : Prop where
  | applying {discovered : σ} {failure : Failure}
      (fetched : (discover settings config space).execute handler state =
        (.ok (.ok canonical), discovered))
      (ended : (run settings config space).execute handler state =
        (.ok (.error failure), failed))
  | searching {reached : σ} {cause failure : Failure}
      (unfetched : (discover settings config space).execute handler state =
        (.ok (.error cause), reached))
      (harmless : cause.requiresCleanup = false)
      (ended : (run settings config space).execute handler state =
        (.ok (.error failure), failed))

/-- Any number of passes that failed. From one to the next the records are left alone. -/
inductive Attempts (handler : Handler σ) (held : σ → List Cluster) (settings : Settings)
    (config : Config) (space : String) (canonical : Keyed ClusterSpec) : σ → σ → Prop where
  | none {state : σ} : Attempts handler held settings config space canonical state state
  | again {state failed resumed final : σ}
      (failing : Failed handler settings config space canonical state failed)
      (alone : (held resumed).Perm (held failed))
      (later : Attempts handler held settings config space canonical resumed final) :
      Attempts handler held settings config space canonical state final

/-- The records still have distinct names, and the same is to become of each of them. -/
structure SameGoal (config : Config) (canonical : Keyed ClusterSpec)
    (before after : List Cluster) : Prop where
  distinct : Distinct after
  becomes : ∀ target,
    (Plan.settled? config canonical target (named? after target)).map unversioned =
      (Plan.settled? config canonical target (named? before target)).map unversioned

theorem SameGoal.trans {before between after : List Cluster}
    (first : SameGoal config canonical before between)
    (second : SameGoal config canonical between after) :
    SameGoal config canonical before after where
  distinct := second.distinct
  becomes := fun target => (second.becomes target).trans (first.becomes target)

theorem SameGoal.of_perm {before after : List Cluster} (distinct : Distinct before)
    (rearranged : before.Perm after) : SameGoal config canonical before after where
  distinct := distinct.perm rearranged
  becomes := fun target => by rw [Cluster.named?_perm distinct rearranged]

/-- A pass that fails changes no goal. -/
theorem Failed.sameGoal {state failed : σ} (keeps : handler.Keeps space held)
    (undisturbed : handler.Undisturbed held) (inSpace : config.metadata.space = some space)
    (distinct : Distinct (held state))
    (failing : Failed handler settings config space canonical state failed) :
    SameGoal config canonical (held state) (held failed) := by
  cases failing with
  | searching unfetched harmless ended =>
      obtain ⟨result, reached, _outcome, _seen⟩ := execute_run_of_unfetched unfetched harmless
      rw [ended] at reached
      obtain ⟨_sameResult, rfl⟩ := Prod.mk.inj reached
      rw [held_discover undisturbed unfetched]
      exact SameGoal.of_perm distinct (List.Perm.refl _)
  | @applying discovered failure fetched ended =>
      have sameRecords := held_discover undisturbed fetched
      rw [execute_run_of_discovered fetched] at ended
      rw [← sameRecords] at distinct ⊢
      obtain ⟨result, existing, made, rest, final, converged, rearranged, planned, revised,
        _complete, _unfailing⟩ := converge_advances keeps inSpace distinct
      have distinctListing := distinct.perm rearranged.symm
      have sameFinal : final = failed := by
        cases result with
        | ok done =>
            rw [Routine.execute_bind_of_ok converged] at ended
            cases ended
        | error cause =>
            rw [Routine.execute_bind_of_error converged] at ended
            exact (Prod.mk.inj ended).2
      subst sameFinal
      refine ⟨revised.distinct distinctListing, fun target => ?_⟩
      rw [revised.settled?_eq distinctListing (named_of_discover fetched) planned,
        Cluster.named?_perm distinctListing rearranged]

theorem Attempts.sameGoal {state final : σ} (keeps : handler.Keeps space held)
    (undisturbed : handler.Undisturbed held) (inSpace : config.metadata.space = some space)
    (distinct : Distinct (held state))
    (attempts : Attempts handler held settings config space canonical state final) :
    SameGoal config canonical (held state) (held final) := by
  induction attempts with
  | none => exact SameGoal.of_perm distinct (List.Perm.refl _)
  | again failing alone _later ih =>
      have first := failing.sameGoal keeps undisturbed inSpace distinct
      have between : SameGoal config canonical _ _ := .of_perm first.distinct alone.symm
      exact (first.trans between).trans (ih between.distinct)

theorem run_reaches {state discovered : σ} (keeps : handler.Keeps space held)
    (undisturbed : handler.Undisturbed held) (inSpace : config.metadata.space = some space)
    (distinct : Distinct (held state))
    (fetched : (discover settings config space).execute handler state =
      (.ok (.ok canonical), discovered))
    (noneFailed : ∀ event ∈ (run settings config space).trace handler state,
      event.failed = false) :
    ∃ final, (run settings config space).execute handler state =
        (.ok (.ok (.requeue settings.refreshSecs, .applied)), final) ∧
      Distinct (held final) ∧ ∀ target, (named? (held final) target).map unversioned =
        (Plan.settled? config canonical target (named? (held state) target)).map
          unversioned := by
  have sameRecords := held_discover undisturbed fetched
  rw [← sameRecords] at distinct ⊢
  obtain ⟨existing, final, ended, rearranged, revised⟩ :=
    run_revises keeps inSpace fetched distinct noneFailed
  have distinctListing := distinct.perm rearranged.symm
  refine ⟨final, ended, revised.distinct distinctListing, fun target => ?_⟩
  rw [(revised.settles distinctListing (named_of_discover fetched) target).2,
    Cluster.named?_perm distinctListing rearranged]

/-- An application that stops has made the mutations before the one that failed and no
other, and the next plan has the rest. After any number of failed passes, one without
failures leaves the records that it would have left without them. -/
theorem application_resumes (keeps : handler.Keeps space held)
    (inSpace : config.metadata.space = some space) (named : Plan.Named canonical) :
    (∀ existing position mutation failure state reached,
      Cluster.Ordered existing → existing.Perm (held state) →
      (Plan.changes config canonical existing).mutations[position]? = some mutation →
      (Plan.applyAll space
        ((Plan.changes config canonical existing).mutations.take position)).execute handler
          state = (.ok (.ok ()), reached) →
      (handler (.cluster (mutation.call space)) reached).1 = Except.error failure →
      ∃ stopped, Plan.Stopped handler space held (Plan.changes config canonical existing)
          position mutation failure state reached stopped ∧
        ∀ listing, Cluster.Ordered listing → listing.Perm (held stopped) →
          let plan := Plan.changes config canonical existing
          let next := Plan.changes config canonical listing
          next.mutations = plan.mutations.drop position ∧
          next.create = plan.create.drop position ∧
          next.update = plan.update.drop (position - plan.create.length) ∧
          next.delete = plan.delete.drop (position - (plan.create.length + plan.update.length))) ∧
    (handler.Undisturbed held →
      ∀ state start discovered first otherDiscovered,
        Distinct (held state) →
        Attempts handler held settings config space canonical state start →
        (discover settings config space).execute handler start =
          (.ok (.ok canonical), discovered) →
        (∀ event ∈ (run settings config space).trace handler start, event.failed = false) →
        (held first).Perm (held state) →
        (discover settings config space).execute handler first =
          (.ok (.ok canonical), otherDiscovered) →
        (∀ event ∈ (run settings config space).trace handler first, event.failed = false) →
        ∃ final otherFinal,
          (run settings config space).execute handler start =
            (.ok (.ok (.requeue settings.refreshSecs, .applied)), final) ∧
          (run settings config space).execute handler first =
            (.ok (.ok (.requeue settings.refreshSecs, .applied)), otherFinal) ∧
          ((held final).map unversioned).Perm ((held otherFinal).map unversioned)) := by
  constructor
  · intro existing position mutation failure state reached ordered listed next ended refused
    have stays (made : Mutation)
        (member : made ∈ (Plan.changes config canonical existing).mutations) :
        made.isIn space :=
      Plan.isIn_of_mem_mutations ordered.distinct inSpace
        (fun record present => keeps.located state record (listed.mem_iff.mp present)) member
    have stopped := Plan.stopped_of_refused keeps stays next ended refused
    refine ⟨_, stopped, ?_⟩
    intro listing listingOrdered relisted
    have revised := stopped.revised.perm_left listed.symm
    have goesOn := revised.mutations_eq_drop ordered named relisted listingOrdered
    exact ⟨goesOn, Plan.parts_of_drop goesOn⟩
  · intro undisturbed state start discovered first otherDiscovered distinct attempts fetched
      noneFailed same otherFetched otherNoneFailed
    have goal := attempts.sameGoal keeps undisturbed inSpace distinct
    obtain ⟨final, ended, distinctFinal, reached⟩ :=
      run_reaches keeps undisturbed inSpace goal.distinct fetched noneFailed
    have distinctFirst := distinct.perm same.symm
    obtain ⟨otherFinal, otherEnded, distinctOther, otherReached⟩ :=
      run_reaches keeps undisturbed inSpace distinctFirst otherFetched otherNoneFailed
    refine ⟨final, otherFinal, ended, otherEnded,
      Cluster.perm_unversioned distinctFinal distinctOther fun target => ?_⟩
    rw [reached, otherReached, goal.becomes, Cluster.named?_perm distinctFirst same]

section Sample

private abbrev sampleWorld : World := Sample.faulty [Sample.record "b", Sample.record "c"]

private abbrev sampleHealed : World := { sampleWorld with faults := [] }

private abbrev samplePlan : Plan :=
  Plan.changes Sample.config (Sample.canonical ["b"]) (World.recordsIn "ns" sampleWorld)

private abbrev sampleStart : World :=
  ((run .standard Sample.config "ns").execute (Sample.granting ["b"]) sampleWorld).2

private abbrev sampleReached : World :=
  ((Plan.applyAll "ns" (samplePlan.mutations.take 1)).execute (Sample.granting ["b"])
    sampleWorld).2

private theorem sample_fails :
    ((discover .standard Sample.config "ns").execute (Sample.granting ["b"]) sampleWorld).1 =
      .ok (.ok (Sample.canonical ["b"])) ∧
    ((run .standard Sample.config "ns").execute (Sample.granting ["b"]) sampleWorld).1 =
      .ok (.error (.applyPartial .delete "c" (.hub .service))) := by
  decide +kernel

private theorem sample_goes_on :
    ((discover .standard Sample.config "ns").execute (Sample.granting ["b"]) sampleStart).1 =
      .ok (.ok (Sample.canonical ["b"])) ∧
    ∀ event ∈ (run .standard Sample.config "ns").trace (Sample.granting ["b"]) sampleStart,
      event.failed = false := by
  decide +kernel

private theorem sample_unharmed :
    ((discover .standard Sample.config "ns").execute (Sample.granting ["b"]) sampleHealed).1 =
      .ok (.ok (Sample.canonical ["b"])) ∧
    ∀ event ∈ (run .standard Sample.config "ns").trace (Sample.granting ["b"]) sampleHealed,
      event.failed = false := by
  decide +kernel

private theorem sample_stops :
    ((Plan.applyAll "ns" (samplePlan.mutations.take 1)).execute (Sample.granting ["b"])
      sampleWorld).1 = .ok (.ok ()) ∧
    ((World.recordsIn "ns" sampleWorld).map Cluster.name).Pairwise (· < ·) ∧
    ∃ mutation, samplePlan.mutations[1]? = some mutation ∧ Event.failed
      ⟨.cluster (mutation.call "ns"),
        (Sample.granting ["b"] (.cluster (mutation.call "ns")) sampleReached).1⟩ = true := by
  have refused : samplePlan.mutations[1]?.any (fun mutation => Event.failed
      ⟨.cluster (mutation.call "ns"),
        (Sample.granting ["b"] (.cluster (mutation.call "ns")) sampleReached).1⟩) = true := by
    decide +kernel
  exact ⟨by decide +kernel, by decide +kernel, (Option.any_eq_true _ _).mp refused⟩

/-- A pass updates one record and fails to delete another; the next pass does the rest. -/
theorem application_resumes_sample :
    (∃ mutation failure stopped,
      Plan.Stopped (Sample.granting ["b"]) "ns" (World.recordsIn "ns") samplePlan 1 mutation
        failure sampleWorld sampleReached stopped) ∧
    ∃ final otherFinal,
      (run .standard Sample.config "ns").execute (Sample.granting ["b"]) sampleStart =
        (.ok (.ok (.requeue 1800, .applied)), final) ∧
      (run .standard Sample.config "ns").execute (Sample.granting ["b"]) sampleHealed =
        (.ok (.ok (.requeue 1800, .applied)), otherFinal) ∧
      ((World.recordsIn "ns" final).map unversioned).Perm
        ((World.recordsIn "ns" otherFinal).map unversioned) := by
  obtain ⟨fetchedBefore, failing⟩ := sample_fails
  obtain ⟨fetched, noneFailed⟩ := sample_goes_on
  obtain ⟨otherFetched, otherNoneFailed⟩ := sample_unharmed
  obtain ⟨started, names, mutation, next, refused⟩ := sample_stops
  obtain ⟨failure, answered⟩ := Event.exists_error_of_failed refused
  have ordered : Cluster.Ordered (World.recordsIn "ns" sampleWorld) := List.pairwise_map.mp names
  have named : Plan.Named (Sample.canonical ["b"]) := named_of_discover (Prod.ext fetched rfl)
  have attempts : Attempts (Sample.granting ["b"]) (World.recordsIn "ns") .standard
      Sample.config "ns" (Sample.canonical ["b"]) sampleWorld sampleStart :=
    .again (.applying (Prod.ext fetchedBefore rfl) (Prod.ext failing rfl)) (List.Perm.refl _)
      .none
  obtain ⟨stops, resumes⟩ := application_resumes
    (World.answering_keeps _ _ "ns") (show Sample.config.metadata.space = some "ns" from rfl)
    named
  obtain ⟨stopped, isStopped, _next⟩ := stops _ 1 mutation failure sampleWorld sampleReached
    ordered (List.Perm.refl _) next (Prod.ext started rfl) answered
  obtain ⟨final, otherFinal, ended, otherEnded, same⟩ := resumes
    (World.answering_undisturbed _ _ "ns") sampleWorld sampleStart _ sampleHealed _
    ordered.distinct attempts (Prod.ext fetched rfl) noneFailed (List.Perm.refl _)
    (Prod.ext otherFetched rfl) otherNoneFailed
  exact ⟨⟨mutation, failure, stopped, isStopped⟩, final, otherFinal, ended, otherEnded, same⟩

end Sample

end Pass

end ClusterDiscovery

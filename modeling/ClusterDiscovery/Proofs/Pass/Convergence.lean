/-
Convergence of a pass.

A pass whose inventory was fetched lists the records, applies the plan and wakes the
overlay. If no call fails the records are those of the canonical set, whatever they were
before, and then there is nothing left to do.
-/

import ClusterDiscovery.Proofs.Pass.Application
import ClusterDiscovery.Proofs.Pass.Discovery
import ClusterDiscovery.Proofs.Plan.Resumption
import ClusterDiscovery.Proofs.World.Keeper

namespace ClusterDiscovery

open Cluster (Distinct named? unversioned)

variable {σ : Type} {handler : Handler σ} {space : String} {held : σ → List Cluster}
  {settings : Settings} {config : Config} {canonical : Keyed ClusterSpec}
  {state discovered reached : σ} {existing : List Cluster}

theorem Plan.isIn_of_mem_mutations (distinct : Distinct existing)
    (inSpace : config.metadata.space = some space)
    (located : ∀ record ∈ existing, record.space = space) {mutation : Mutation}
    (member : mutation ∈ (changes config canonical existing).mutations) :
    mutation.isIn space := by
  rcases (mem_mutations distinct).mp member with
    ⟨spec, _isMissing, rfl⟩ | ⟨current, isPresent, revised, found, rfl⟩ |
      ⟨current, _isPresent, _unwanted, rfl⟩
  · exact Cluster.space_ownedBy spec inSpace
  · obtain ⟨desired, _isMember, _differs, rfl⟩ := revision?_eq_some_iff.mp found
    exact located current isPresent
  · exact trivial

namespace Pass

theorem execute_converge_of_listed
    (listed : (handler (.cluster (.listRecords space)) state).1 = Except.ok existing) :
    (converge config space canonical).execute handler state =
      (Plan.apply (Plan.changes config canonical existing) space >>= fun _ =>
        Routine.perform .nudge).execute handler
          (handler (.cluster (.listRecords space)) state).2 :=
  Routine.execute_call_bind_of_ok listed

theorem trace_converge_of_listed
    (listed : (handler (.cluster (.listRecords space)) state).1 = Except.ok existing) :
    (converge config space canonical).trace handler state =
      ⟨.cluster (.listRecords space), Except.ok existing⟩ ::
        (Plan.apply (Plan.changes config canonical existing) space >>= fun _ =>
          Routine.perform .nudge).trace handler
            (handler (.cluster (.listRecords space)) state).2 :=
  Routine.trace_call_bind_of_ok listed

/-- However a convergence ends, it has made the first mutations of a plan for the records,
and all of them unless a call has failed. -/
theorem converge_advances (keeps : handler.Keeps space held)
    (inSpace : config.metadata.space = some space) (distinct : Distinct (held state)) :
    ∃ result existing made rest final,
      (converge config space canonical).execute handler state = (.ok result, final) ∧
      existing.Perm (held state) ∧
      (Plan.changes config canonical existing).mutations = made ++ rest ∧
      Revised made existing (held final) ∧
      (result = .ok () → rest = []) ∧
      ((∀ event ∈ (converge config space canonical).trace handler state,
        event.failed = false) → result = .ok ()) := by
  have sameRecords := keeps.listing state
  cases answered : (handler (.cluster (.listRecords space)) state).1 with
  | error failure =>
      refine ⟨.error failure, held state, [], _, _,
        Routine.execute_call_bind_of_error answered, List.Perm.refl _, rfl, ?_, ?_, ?_⟩
      · rw [sameRecords]
        exact .nothing (List.Perm.refl _)
      · intro impossible
        cases impossible
      · intro noneFailed
        have seen : (converge config space canonical).trace handler state =
            [⟨.cluster (.listRecords space), Except.error failure⟩] :=
          Routine.trace_call_bind_of_error answered
        rw [seen] at noneFailed
        cases noneFailed _ List.mem_cons_self
  | ok listing =>
      obtain ⟨existing, listed⟩ : ∃ existing : List Cluster,
          (handler (.cluster (.listRecords space)) state).1 = Except.ok existing :=
        ⟨listing, answered⟩
      have rearranged := keeps.listed state existing listed
      have stays (mutation : Mutation)
          (member : mutation ∈ (Plan.changes config canonical existing).mutations) :
          mutation.isIn space :=
        Plan.isIn_of_mem_mutations (distinct.perm rearranged.symm) inSpace
          (fun record isListed => keeps.located state record (rearranged.mem_iff.mp isListed))
          member
      obtain ⟨result, made, rest, applied, ended, planned, revised, complete, unfailing⟩ :=
        Plan.applyAll_advances keeps stays (handler (.cluster (.listRecords space)) state).2
      rw [sameRecords] at revised
      rw [execute_converge_of_listed listed, trace_converge_of_listed listed]
      cases result with
      | ok done =>
          refine ⟨.ok (), existing, made, rest, _, Routine.execute_bind_of_ok ended, rearranged,
            planned, ?_, complete, fun _ => rfl⟩
          rw [keeps.nudged]
          exact revised.perm_left rearranged.symm
      | error failure =>
          refine ⟨.error failure, existing, made, rest, applied,
            Routine.execute_bind_of_error ended, rearranged, planned,
            revised.perm_left rearranged.symm, ?_, ?_⟩
          · intro impossible
            cases impossible
          · intro noneFailed
            unfold Plan.apply at noneFailed
            rw [Routine.trace_bind_of_error ended] at noneFailed
            exact unfailing fun event member => noneFailed event (List.mem_cons_of_mem _ member)

theorem unchanging_trace_converge (keeps : handler.Keeps space held)
    (settled : Plan.Settled canonical (held state)) {event : Event}
    (performed : event ∈ (converge config space canonical).trace handler state) :
    event.effect.changesRecord = false := by
  cases answered : (handler (.cluster (.listRecords space)) state).1 with
  | error failure =>
      have seen : (converge config space canonical).trace handler state =
          [⟨.cluster (.listRecords space), Except.error failure⟩] :=
        Routine.trace_call_bind_of_error answered
      rw [seen] at performed
      rw [List.mem_singleton.mp performed]
      rfl
  | ok listing =>
      obtain ⟨existing, listed⟩ : ∃ existing : List Cluster,
          (handler (.cluster (.listRecords space)) state).1 = Except.ok existing :=
        ⟨listing, answered⟩
      have rearranged := keeps.listed state existing listed
      have nothing := Plan.changes_of_settled config (settled.perm rearranged.symm)
      rw [trace_converge_of_listed listed, nothing] at performed
      rcases List.mem_cons.mp performed with rfl | later
      · rfl
      · have nudges : event = ⟨.nudge, ()⟩ := List.mem_singleton.mp later
        rw [nudges]
        rfl

theorem writes_trace_converge (keeps : handler.Keeps space held)
    (settled : Plan.Settled canonical (held state)) :
    writes ((converge config space canonical).trace handler state) = [] :=
  writes_eq_nil fun _ performed => unchanging_trace_converge keeps settled performed

/-- The records after a pass, next to those before it. -/
structure Converged (config : Config) (canonical : Keyed ClusterSpec)
    (before after : List Cluster) : Prop extends Plan.Settled canonical after where
  kept : ∀ old ∈ before, ∀ record ∈ after, record.name = old.name →
    record.unversioned.metadata = old.unversioned.metadata ∧
      record.spec.isManaged = old.spec.isManaged
  created : ∀ record ∈ after, record.name ∉ before.map Cluster.name →
    ∃ desired, canonical.get? record.name = some desired ∧
      record.unversioned = Cluster.ownedBy config desired

theorem converged_of_revised {before after : List Cluster} (distinct : Distinct existing)
    (named : Plan.Named canonical) (rearranged : existing.Perm before)
    (revised : Revised (Plan.changes config canonical existing).mutations existing after) :
    Converged config canonical before after := by
  have distinctAfter := revised.distinct distinct
  have sameRecord (target : String) : named? before target = named? existing target :=
    (Cluster.named?_perm distinct rearranged target).symm
  have becomes (record : Cluster) (present : record ∈ after) :
      ∃ result, Plan.settled? config canonical record.name (named? before record.name) =
        some result ∧ result.unversioned = record.unversioned := by
    have settled := (revised.settles distinct named record.name).2
    rw [Cluster.named?_of_mem distinctAfter present, ← sameRecord] at settled
    exact Option.map_eq_some_iff.mp settled.symm
  refine ⟨Plan.settled_of_forall distinctAfter fun target =>
    (revised.settles distinct named target).1, ?_, ?_⟩
  · intro old wasThere record present sameName
    obtain ⟨result, settled, same⟩ := becomes record present
    rw [sameName, Cluster.named?_of_mem (distinct.perm rearranged) wasThere] at settled
    obtain ⟨desired, _member, made⟩ := Option.map_eq_some_iff.mp settled
    have keptBoth : result.metadata = old.metadata ∧
        result.spec.isManaged = old.spec.isManaged := by
      rw [← made]
      simp only
      split
      · exact ⟨rfl, rfl⟩
      · exact ⟨rfl, rfl⟩
    constructor
    · rw [← same]
      unfold unversioned Cluster.withVersion
      simp only [keptBoth.1]
    · rw [← keptBoth.2]
      exact congrArg (fun cluster => cluster.spec.isManaged) same.symm
  · intro record present isNew
    obtain ⟨result, settled, same⟩ := becomes record present
    rw [Cluster.named?_eq_none_iff.mpr isNew] at settled
    obtain ⟨desired, member, made⟩ := Option.map_eq_some_iff.mp settled
    refine ⟨desired, member, ?_⟩
    rw [← same, ← made]
    rfl

theorem run_revises (keeps : handler.Keeps space held)
    (inSpace : config.metadata.space = some space)
    (fetched : (discover settings config space).execute handler state =
      (.ok (.ok canonical), discovered))
    (distinct : Distinct (held discovered))
    (noneFailed : ∀ event ∈ (run settings config space).trace handler state,
      event.failed = false) :
    ∃ existing final, (run settings config space).execute handler state =
        (.ok (.ok (.requeue settings.refreshSecs, .applied)), final) ∧
      existing.Perm (held discovered) ∧
      Revised (Plan.changes config canonical existing).mutations existing (held final) := by
  rw [trace_run_of_discovered fetched] at noneFailed
  obtain ⟨result, existing, made, rest, final, ended, rearranged, planned, revised, complete,
    unfailing⟩ := converge_advances keeps inSpace distinct
  have succeeded : result = .ok () :=
    unfailing fun event member => noneFailed event (List.mem_append_right _ member)
  subst succeeded
  rw [complete rfl, List.append_nil] at planned
  rw [← planned] at revised
  refine ⟨existing, final, ?_, rearranged, revised⟩
  rw [execute_run_of_discovered fetched, Routine.execute_bind_of_ok ended]
  rfl

/-- A pass in which no call fails converges, and a pass with the same canonical set after it
finds nothing to do. -/
theorem run_converges (keeps : handler.Keeps space held)
    (inSpace : config.metadata.space = some space)
    (fetched : (discover settings config space).execute handler state =
      (.ok (.ok canonical), discovered))
    (distinct : Distinct (held discovered))
    (noneFailed : ∀ event ∈ (run settings config space).trace handler state,
      event.failed = false) :
    ∃ final, (run settings config space).execute handler state =
        (.ok (.ok (.requeue settings.refreshSecs, .applied)), final) ∧
      Converged config canonical (held discovered) (held final) ∧
      (∀ listing, listing.Perm (held final) →
        Plan.changes config canonical listing = ⟨[], [], [], canonical.size⟩) ∧
      ∀ later reread, (discover settings config space).execute handler later =
          (.ok (.ok canonical), reread) → held reread = held final →
        writes ((run settings config space).trace handler later) = [] := by
  obtain ⟨existing, final, ended, rearranged, revised⟩ :=
    run_revises keeps inSpace fetched distinct noneFailed
  have converged := converged_of_revised (distinct.perm rearranged.symm)
    (named_of_discover fetched) rearranged revised
  refine ⟨final, ended, converged, ?_, ?_⟩
  · intro listing listed
    exact Plan.changes_of_settled config (converged.toSettled.perm listed.symm)
  · intro later reread fetchedAgain sameRecords
    rw [trace_run_of_discovered fetchedAgain, writes_append, writes_trace_discover,
      List.nil_append]
    apply writes_trace_converge keeps
    rw [sameRecords]
    exact converged.toSettled

/-- Of two records one goes and one is updated. -/
theorem run_converges_sample : ∃ discovered final,
    (run .standard Sample.config "ns").execute (Sample.granting ["b"])
        (Sample.world [Sample.record "c", Sample.record "b"]) =
      (.ok (.ok (.requeue 1800, .applied)), final) ∧
    Converged Sample.config (Sample.canonical ["b"]) (World.recordsIn "ns" discovered)
      (World.recordsIn "ns" final) := by
  have check : (discover .standard Sample.config "ns").yields (Sample.granting ["b"])
        (Sample.world [Sample.record "c", Sample.record "b"]) (fun found discovered =>
          found = Sample.canonical ["b"] && Distinct (World.recordsIn "ns" discovered)) = true ∧
      ((run .standard Sample.config "ns").trace (Sample.granting ["b"])
        (Sample.world [Sample.record "c", Sample.record "b"])).all
          (fun event => !event.failed) = true := by
    decide +kernel
  obtain ⟨fetches, noneFailed⟩ := check
  obtain ⟨found, discovered, fetched, tested⟩ := Routine.yields_eq_true_iff.mp fetches
  rw [Bool.and_eq_true, decide_eq_true_eq, decide_eq_true_eq] at tested
  obtain ⟨rfl, distinct⟩ := tested
  obtain ⟨final, ended, converged, _fixed⟩ := run_converges
    (World.answering_keeps _ _ "ns") rfl fetched distinct fun event member => by
      simpa using List.all_eq_true.mp noneFailed event member
  exact ⟨discovered, final, ended, converged⟩

end Pass

end ClusterDiscovery

/-
Cleanup.

A pass removes the records of its namespace when the credential is beyond use, and in no
other case. It lists them and deletes them one after the other until a delete fails, so
those before the one that failed are gone and the others are still there.
-/

import ClusterDiscovery.Proofs.Pass.Application
import ClusterDiscovery.Proofs.Pass.Verdict
import ClusterDiscovery.Proofs.World.Keeper

namespace ClusterDiscovery

open Cluster (Distinct)

theorem Revised.perm_of_deletes {names : List String} {before after : List Cluster}
    (revised : Revised (names.map .delete) before after) :
    (before.filter fun record => !names.contains record.name).Perm after := by
  induction names generalizing before with
  | nil =>
      cases revised with
      | nothing rearranged =>
          have everyOne : before.filter (fun record => !([] : List String).contains record.name) =
              before := List.filter_eq_self.mpr fun _ _ => rfl
          rw [everyOne]
          exact rearranged
  | cons name rest ih =>
      cases revised with
      | write version later =>
          have left := ih later
          rw [Mutation.revise_delete, List.filter_filter] at left
          have sameTest : (before.filter fun record => !(name :: rest).contains record.name) =
              before.filter fun record =>
                !rest.contains record.name && record.name != name := by
            apply List.filter_congr
            intro record _present
            rw [List.contains_cons, Bool.not_or, Bool.and_comm]
            rfl
          rw [sameTest]
          exact left

theorem Cluster.Distinct.filter_take {records : List Cluster} (distinct : Distinct records)
    (count : Nat) :
    (records.filter fun record =>
      !((records.take count).map Cluster.name).contains record.name) = records.drop count := by
  have split : records = records.take count ++ records.drop count :=
    (List.take_append_drop count records).symm
  have apart : ∀ first ∈ records.take count, ∀ second ∈ records.drop count,
      first.name ≠ second.name := by
    have names : ((records.take count).map Cluster.name ++
        (records.drop count).map Cluster.name).Nodup := by
      rw [← List.map_append, ← split]
      exact distinct
    intro first isFirst second isSecond
    exact (List.nodup_append.mp names).2.2 _ (List.mem_map.mpr ⟨first, isFirst, rfl⟩) _
      (List.mem_map.mpr ⟨second, isSecond, rfl⟩)
  have noneTaken : ((records.take count).filter fun record =>
      !((records.take count).map Cluster.name).contains record.name) = [] := by
    rw [List.filter_eq_nil_iff]
    intro record taken
    have member : record.name ∈ (records.take count).map Cluster.name :=
      List.mem_map.mpr ⟨record, taken, rfl⟩
    rw [List.contains_iff_mem.mpr member]
    exact Bool.false_ne_true
  have allLeft : ((records.drop count).filter fun record =>
      !((records.take count).map Cluster.name).contains record.name) = records.drop count := by
    rw [List.filter_eq_self]
    intro record left
    rw [Bool.not_eq_true', ← Bool.not_eq_true, List.contains_iff_mem]
    intro member
    obtain ⟨first, taken, same⟩ := List.mem_map.mp member
    exact apart first taken record left same
  calc
    _ = (records.take count ++ records.drop count).filter (fun record =>
        !((records.take count).map Cluster.name).contains record.name) := by rw [← split]
    _ = records.drop count := by
        rw [List.filter_append, noneTaken, allLeft, List.nil_append]

namespace Pass

variable {σ : Type} {handler : Handler σ} {space : String} {held : σ → List Cluster}
  {settings : Settings} {config : Config} {state reached : σ} {existing : List Cluster}

private theorem mutations_deletion (existing : List Cluster) :
    (Plan.deletion existing).mutations = (existing.map Cluster.name).map .delete := rfl

private theorem perm_held_of_deleted (keeps : handler.Keeps space held) {names : List String}
    (ended : (Plan.applyAll space (names.map .delete)).execute handler state =
      (.ok (.ok ()), reached)) :
    ((held state).filter fun record => !names.contains record.name).Perm (held reached) := by
  have stays : ∀ mutation ∈ names.map Mutation.delete, mutation.isIn space := by
    intro mutation member
    obtain ⟨name, _present, rfl⟩ := List.mem_map.mp member
    exact trivial
  exact (Plan.revised_of_applyAll keeps stays ended).perm_of_deletes

private theorem held_of_removed (keeps : handler.Keeps space held)
    (rearranged : existing.Perm (held state))
    (ended : (Plan.applyAll space (Plan.deletion existing).mutations).execute handler state =
      (.ok (.ok ()), reached)) : held reached = [] := by
  rw [mutations_deletion] at ended
  have left := perm_held_of_deleted keeps ended
  have noneLeft : ((held state).filter fun record =>
      !(existing.map Cluster.name).contains record.name) = [] := by
    rw [List.filter_eq_nil_iff]
    intro record present
    have member : record.name ∈ existing.map Cluster.name :=
      List.mem_map.mpr ⟨record, rearranged.mem_iff.mpr present, rfl⟩
    rw [List.contains_iff_mem.mpr member]
    exact Bool.false_ne_true
  rw [noneLeft] at left
  exact left.nil_eq.symm

private theorem held_of_interrupted (keeps : handler.Keeps space held)
    (rearranged : existing.Perm (held state)) (distinct : Distinct existing) {count : Nat}
    (ended : (Plan.applyAll space
      (((existing.take count).map Cluster.name).map .delete)).execute handler state =
        (.ok (.ok ()), reached)) : (held reached).Perm (existing.drop count) := by
  have left := perm_held_of_deleted keeps ended
  rw [← distinct.filter_take count]
  exact left.symm.trans (rearranged.symm.filter _)

/-- A removal that has deleted everything it has listed. -/
structure Removed (handler : Handler σ) (space : String) (held : σ → List Cluster)
    (existing : List Cluster) (state final : σ) : Prop where
  ended : (removeAll space).execute handler state = (.ok (.ok ()), final)
  nothingLeft : held final = []
  performed : writes ((removeAll space).trace handler state) =
    existing.map fun record => .cluster (.deleteRecord space record.name)
  unfailing : ∀ event ∈ (removeAll space).trace handler state, event.failed = false

/-- A removal that failed to delete a record: those listed before it are gone. -/
structure Interrupted (handler : Handler σ) (space : String) (held : σ → List Cluster)
    (existing : List Cluster) (position : Nat) (record : Cluster) (state final : σ) :
    Prop where
  place : existing[position]? = some record
  ended : ∃ failure : Failure, (removeAll space).execute handler state =
    (.ok (.error (failure.ofMutation .delete record.name)), final)
  left : Distinct existing → (held final).Perm (existing.drop position)
  performed : writes ((removeAll space).trace handler state) =
    (existing.take (position + 1)).map fun made => .cluster (.deleteRecord space made.name)
  failed : ∀ event ∈ (removeAll space).trace handler state, event.failed = true →
    event.effect = .cluster (.deleteRecord space record.name)
  hasFailed : ∃ event ∈ (removeAll space).trace handler state,
    event.effect = .cluster (.deleteRecord space record.name) ∧ event.failed = true

private theorem trace_removeAll
    (listed : (handler (.cluster (.listRecords space)) state).1 = Except.ok existing) :
    (removeAll space).trace handler state =
      ⟨.cluster (.listRecords space), Except.ok existing⟩ ::
        (Plan.applyAll space (Plan.deletion existing).mutations).trace handler
          (handler (.cluster (.listRecords space)) state).2 :=
  Routine.trace_call_bind_of_ok listed

private theorem writes_trace_removeAll
    (listed : (handler (.cluster (.listRecords space)) state).1 = Except.ok existing) :
    writes ((removeAll space).trace handler state) =
      writes ((Plan.applyAll space (Plan.deletion existing).mutations).trace handler
        (handler (.cluster (.listRecords space)) state).2) := by
  rw [trace_removeAll listed]
  rfl

private theorem execute_removeAll
    (listed : (handler (.cluster (.listRecords space)) state).1 = Except.ok existing) :
    (removeAll space).execute handler state =
      (Plan.applyAll space (Plan.deletion existing).mutations).execute handler
        (handler (.cluster (.listRecords space)) state).2 :=
  Routine.execute_call_bind_of_ok listed

private theorem removed_of_applied (keeps : handler.Keeps space held)
    (listed : (handler (.cluster (.listRecords space)) state).1 = Except.ok existing)
    (ended : (Plan.applyAll space (Plan.deletion existing).mutations).execute handler
      (handler (.cluster (.listRecords space)) state).2 = (.ok (.ok ()), reached)) :
    Removed handler space held existing state reached := by
  have rearranged := keeps.listed state existing listed
  rw [← keeps.listing state] at rearranged
  obtain ⟨performed, unfailing⟩ := Plan.trace_applyAll_of_ok ended
  refine ⟨(execute_removeAll listed).trans ended, held_of_removed keeps rearranged ended, ?_, ?_⟩
  · rw [writes_trace_removeAll listed, performed, mutations_deletion, List.map_map,
      List.map_map]
    rfl
  · rw [trace_removeAll listed]
    intro event member
    rcases List.mem_cons.mp member with rfl | later
    · rfl
    · exact unfailing event later

private theorem place_of_deletion {made rest : List Mutation} {mutation : Mutation}
    (same : (Plan.deletion existing).mutations = made ++ mutation :: rest) :
    made = ((existing.take made.length).map Cluster.name).map .delete ∧
      ∃ record, existing[made.length]? = some record ∧ mutation = .delete record.name := by
  constructor
  · rw [List.map_take, List.map_take, ← mutations_deletion, same, List.take_left]
  · have next : (Plan.deletion existing).mutations[made.length]? = some mutation := by
      rw [same, List.getElem?_append_right (Nat.le_refl _), Nat.sub_self]
      rfl
    rw [mutations_deletion, List.map_map, List.getElem?_map] at next
    obtain ⟨record, place, isDelete⟩ := Option.map_eq_some_iff.mp next
    exact ⟨record, place, isDelete.symm⟩

private theorem interrupted_of_refused (keeps : handler.Keeps space held)
    (listed : (handler (.cluster (.listRecords space)) state).1 = Except.ok existing)
    {made rest : List Mutation} {record : Cluster} {failure : Failure}
    (same : (Plan.deletion existing).mutations = made ++ .delete record.name :: rest)
    (place : existing[made.length]? = some record)
    (ended : (Plan.applyAll space made).execute handler
      (handler (.cluster (.listRecords space)) state).2 = (.ok (.ok ()), reached))
    (refused : (handler (.cluster ((Mutation.delete record.name).call space)) reached).1 =
      Except.error failure) :
    Interrupted handler space held existing made.length record state
      (handler (.cluster ((Mutation.delete record.name).call space)) reached).2 := by
  have rearranged := keeps.listed state existing listed
  rw [← keeps.listing state] at rearranged
  have firstOnes := (place_of_deletion same).1
  obtain ⟨performed, unfailing⟩ := Plan.trace_applyAll_of_ok ended
  have stopped := Plan.execute_applyAll_of_error rest ended refused
  have seen := Plan.trace_applyAll_of_error rest ended refused
  rw [← same] at stopped seen
  refine ⟨place, ⟨failure, (execute_removeAll listed).trans stopped⟩, ?_, ?_, ?_, ?_⟩
  · intro distinct
    rw [keeps.refused _ reached failure refused]
    rw [firstOnes] at ended
    exact held_of_interrupted keeps rearranged distinct ended
  · rw [writes_trace_removeAll listed, seen, writes_append, performed, List.take_add_one, place,
      List.map_append]
    congr 1
    nth_rewrite 1 [firstOnes]
    rw [List.map_map, List.map_map]
    rfl
  · rw [trace_removeAll listed, seen]
    intro event member hasFailed
    rcases List.mem_cons.mp member with rfl | later
    · cases hasFailed
    · rcases List.mem_append.mp later with earlier | last
      · rw [unfailing event earlier] at hasFailed
        cases hasFailed
      · rw [List.mem_singleton.mp last]
        rfl
  · rw [trace_removeAll listed, seen]
    exact ⟨_, List.mem_cons_of_mem _ (List.mem_append_right _ List.mem_cons_self), rfl, rfl⟩

/-- However a removal ends, it has deleted the first of the records it has listed, and all of
them unless a delete has failed. -/
theorem removeAll_ends (keeps : handler.Keeps space held)
    (listed : (handler (.cluster (.listRecords space)) state).1 = Except.ok existing) :
    (∃ final, Removed handler space held existing state final) ∨
    ∃ position record final,
      Interrupted handler space held existing position record state final := by
  rcases Plan.applyAll_ends handler space (Plan.deletion existing).mutations
      (handler (.cluster (.listRecords space)) state).2 with
    ⟨final, ended⟩ | ⟨made, mutation, rest, between, failure, same, ended, refused⟩
  · exact Or.inl ⟨final, removed_of_applied keeps listed ended⟩
  · obtain ⟨_firstOnes, record, place, rfl⟩ := place_of_deletion same
    exact Or.inr ⟨made.length, record, _,
      interrupted_of_refused keeps listed same place ended refused⟩

theorem cleansUp_iff_unusable
    (plainly : ReadsPlainly config space ((discover settings config space).trace handler state)) :
    (∃ reached, CleansUp handler settings config space state reached) ↔
      Unusable settings config space ((discover settings config space).trace handler state) := by
  rcases ended : (discover settings config space).execute handler state with
    ⟨reason | result, reached⟩
  · have usable : ¬ Unusable settings config space
        ((discover settings config space).trace handler state) :=
      discover_judged.stops_of_trace ended
    constructor
    · rintro ⟨other, failure, unfetched, _cleanup⟩
      rw [ended] at unfetched
      cases unfetched
    · intro unusable
      exact absurd unusable usable
  · have judged : Judged settings config space
        ((discover settings config space).trace handler state) result :=
      discover_judged.of_trace ended
    cases result with
    | ok canonical =>
        constructor
        · rintro ⟨other, failure, unfetched, _cleanup⟩
          rw [ended] at unfetched
          cases unfetched
        · intro unusable
          exact absurd unusable judged
    | error failure =>
        have exact : failure.requiresCleanup = true ↔ _ := judged.1 plainly
        constructor
        · rintro ⟨other, cause, unfetched, cleanup⟩
          rw [ended] at unfetched
          cases unfetched
          exact exact.mp cleanup
        · intro unusable
          exact ⟨reached, failure, ended, exact.mpr unusable⟩

theorem cleansUp_of_outcome {action : Action} {final : σ}
    (ended : (run settings config space).execute handler state =
      (.ok (.ok (action, .cleanup)), final)) :
    ∃ reached, CleansUp handler settings config space state reached := by
  rcases searched : (discover settings config space).execute handler state with
    ⟨reason | result, reached⟩
  · unfold run at ended
    rw [Routine.execute_bind, Routine.execute_attempt, searched] at ended
    cases ended
  · cases result with
    | ok canonical =>
        rw [execute_run_of_discovered searched, Routine.execute_bind] at ended
        split at ended <;> cases ended
    | error failure =>
        cases cleanup : failure.requiresCleanup with
        | false =>
            obtain ⟨result, executed, noCleanup, _seen⟩ :=
              execute_run_of_unfetched searched cleanup
            rw [ended] at executed
            cases executed
            exact absurd rfl (noCleanup action)
        | true => exact ⟨reached, failure, searched, cleanup⟩

private theorem rejects_of_cleansUp
    (cleansUp : CleansUp handler settings config space state reached) {event : Event}
    (member : event ∈ (discover settings config space).trace handler state)
    {request : Http.Request} (sent : event.effect = .send request) :
    event.Rejects settings config := by
  obtain ⟨failure, unfetched, cleanup⟩ := cleansUp
  have judged : Judged settings config space
      ((discover settings config space).trace handler state)
      (.error failure : Except Failure (Keyed ClusterSpec)) :=
    discover_judged.of_trace unfetched
  exact rejects_of_condemns (judged.2 cleanup event member request sent) sent

private theorem deletes_of_cleansUp (keeps : handler.Keeps space held)
    (cleansUp : CleansUp handler settings config space state reached) {effect : Effect}
    (member : effect ∈ writes ((run settings config space).trace handler state)) :
    ∃ name, effect = .cluster (.deleteRecord space name) := by
  rw [trace_run_of_cleansUp cleansUp, writes_append, writes_trace_discover,
    List.nil_append] at member
  have deletion (records : List Cluster) (isDelete : effect ∈ records.map fun record =>
      Effect.cluster (.deleteRecord space record.name)) :
      ∃ name, effect = .cluster (.deleteRecord space name) := by
    obtain ⟨record, _listed, same⟩ := List.mem_map.mp isDelete
    exact ⟨record.name, same.symm⟩
  cases answered : (handler (.cluster (.listRecords space)) reached).1 with
  | error failure =>
      have seen : (removeAll space).trace handler reached =
          [⟨.cluster (.listRecords space), Except.error failure⟩] :=
        Routine.trace_call_bind_of_error answered
      rw [seen] at member
      cases member
  | ok existing =>
      rcases removeAll_ends keeps answered with
        ⟨final, removed⟩ | ⟨position, record, final, interrupted⟩
      · rw [removed.performed] at member
        exact deletion _ member
      · rw [interrupted.performed] at member
        exact deletion _ member

def DeleteFailed (space name : String) (events : List Event) : Prop :=
  ∃ event ∈ events, event.effect = .cluster (.deleteRecord space name) ∧ event.failed = true

theorem deleteFailed_run_iff (cleansUp : CleansUp handler settings config space state reached)
    {name : String} :
    DeleteFailed space name ((run settings config space).trace handler state) ↔
      DeleteFailed space name ((removeAll space).trace handler reached) := by
  rw [trace_run_of_cleansUp cleansUp]
  constructor
  · rintro ⟨event, member, isDelete, hasFailed⟩
    rcases List.mem_append.mp member with searching | removing
    · have inquiry := isInquiry_of_mem_trace_discover searching
      rw [isDelete] at inquiry
      cases inquiry
    · exact ⟨event, removing, isDelete, hasFailed⟩
  · rintro ⟨event, member, isDelete, hasFailed⟩
    exact ⟨event, List.mem_append_right _ member, isDelete, hasFailed⟩

/-- How a pass on the path of cleanup ends, given the records it has listed. -/
structure CleanedUp (handler : Handler σ) (settings : Settings) (config : Config)
    (space : String) (held : σ → List Cluster) (existing : List Cluster) (state : σ) :
    Prop where
  gone : (∀ name, ¬ DeleteFailed space name ((run settings config space).trace handler state)) →
    ∃ final, (run settings config space).execute handler state =
        (.ok (.ok (.requeue settings.refreshSecs, .cleanup)), final) ∧
      held final = []
  stopped : ∀ name,
    DeleteFailed space name ((run settings config space).trace handler state) →
      ∃ position record final, existing[position]? = some record ∧ record.name = name ∧
        (∃ failure : Failure, (run settings config space).execute handler state =
          (.ok (.error (failure.ofMutation .delete name)), final)) ∧
        (Distinct existing → (held final).Perm (existing.drop position))

private theorem cleanedUp_of_listed (keeps : handler.Keeps space held)
    (cleansUp : CleansUp handler settings config space state reached)
    (listed : (handler (.cluster (.listRecords space)) reached).1 = Except.ok existing) :
    CleanedUp handler settings config space held existing state := by
  have executed := execute_run_of_cleansUp cleansUp
  rcases removeAll_ends keeps listed with
    ⟨final, removed⟩ | ⟨position, record, final, interrupted⟩
  · constructor
    · intro _noneFailed
      rw [executed, Routine.execute_bind_of_ok removed.ended]
      exact ⟨final, rfl, removed.nothingLeft⟩
    · intro name failed
      obtain ⟨event, member, _isDelete, hasFailed⟩ := (deleteFailed_run_iff cleansUp).mp failed
      rw [removed.unfailing event member] at hasFailed
      cases hasFailed
  · constructor
    · intro noneFailed
      exact absurd ((deleteFailed_run_iff cleansUp).mpr interrupted.hasFailed)
        (noneFailed record.name)
    · intro name failed
      obtain ⟨event, member, isDelete, hasFailed⟩ := (deleteFailed_run_iff cleansUp).mp failed
      have sameEffect := interrupted.failed event member hasFailed
      rw [isDelete] at sameEffect
      cases sameEffect
      obtain ⟨failure, ended⟩ := interrupted.ended
      refine ⟨position, record, final, interrupted.place, rfl, ⟨failure, ?_⟩, interrupted.left⟩
      rw [executed, Routine.execute_bind_of_error ended]

/-- A pass cleans up exactly when the credential is beyond use. A remote side leads there
only by a refusal in full of a request for a token. On that path records are deleted one
after the other as far as it goes, and otherwise left alone. -/
theorem cleans_up_exactly (keeps : handler.Keeps space held)
    (plainly : ReadsPlainly config space ((discover settings config space).trace handler state)) :
    ((∃ reached, CleansUp handler settings config space state reached) ↔
      Unusable settings config space ((discover settings config space).trace handler state)) ∧
    (∀ action final, (run settings config space).execute handler state =
        (.ok (.ok (action, .cleanup)), final) →
      ∃ reached, CleansUp handler settings config space state reached) ∧
    (∀ failure reached, (discover settings config space).execute handler state =
        (.ok (.error failure), reached) →
      ¬ Unusable settings config space
        ((discover settings config space).trace handler state) →
      writes ((run settings config space).trace handler state) = []) ∧
    ∀ reached, CleansUp handler settings config space state reached →
      (∀ event ∈ (discover settings config space).trace handler state, ∀ request,
        event.effect = .send request → event.Rejects settings config) ∧
      (∀ effect ∈ writes ((run settings config space).trace handler state),
        ∃ name, effect = .cluster (.deleteRecord space name)) ∧
      (∀ failure,
        (handler (.cluster (.listRecords space)) reached).1 = Except.error failure →
        ∃ final, (run settings config space).execute handler state =
            (.ok (.error failure), final) ∧
          held final = held reached) ∧
      ∀ existing,
        (handler (.cluster (.listRecords space)) reached).1 = Except.ok existing →
        CleanedUp handler settings config space held existing state := by
  have cleansUpIff := cleansUp_iff_unusable plainly
  refine ⟨cleansUpIff, fun action final ended => cleansUp_of_outcome ended, ?_, ?_⟩
  · intro failure reached unfetched usable
    have harmless : failure.requiresCleanup = false := by
      rw [← Bool.not_eq_true]
      intro cleanup
      exact usable (cleansUpIff.mp ⟨reached, failure, unfetched, cleanup⟩)
    obtain ⟨_result, _executed, _outcome, seen⟩ := execute_run_of_unfetched unfetched harmless
    rw [seen, writes_trace_discover]
  · intro reached cleansUp
    refine ⟨fun event member request sent => rejects_of_cleansUp cleansUp member sent,
      fun effect member => deletes_of_cleansUp keeps cleansUp member, ?_,
      fun existing listed => cleanedUp_of_listed keeps cleansUp listed⟩
    intro failure unlisted
    have removal : (removeAll space).execute handler reached =
        (.ok (.error failure), (handler (.cluster (.listRecords space)) reached).2) :=
      Routine.execute_call_bind_of_error unlisted
    refine ⟨_, ?_, keeps.listing reached⟩
    rw [execute_run_of_cleansUp cleansUp, Routine.execute_bind_of_error removal]

section Sample

private abbrev bareWorld : World :=
  { Sample.world [Sample.record "c", Sample.record "b"] with
    store := { Store.empty with records := [Sample.record "c", Sample.record "b"] } }

private abbrev bareReached : World :=
  ((discover .standard Sample.config "ns").execute World.handle bareWorld).2

private theorem bare_search_fails :
    ((discover .standard Sample.config "ns").execute World.handle bareWorld).1 =
      .ok (.error (.credentialUnavailable "secret" "secret not found")) ∧
    (∀ event ∈ (discover .standard Sample.config "ns").trace World.handle bareWorld,
      event.failed = false) ∧
    (∀ event ∈ (run .standard Sample.config "ns").trace World.handle bareWorld,
      event.failed = false) ∧
    Event.failed ⟨.cluster (.listRecords "ns"),
      (World.handle (.cluster (.listRecords "ns")) bareReached).1⟩ = false := by
  decide +kernel

/-- Without its secret a pass empties the namespace. -/
theorem cleans_up_exactly_sample : ∃ final,
    (run .standard Sample.config "ns").execute World.handle bareWorld =
        (.ok (.ok (.requeue 1800, .cleanup)), final) ∧
      World.recordsIn "ns" final = [] := by
  obtain ⟨searched, readable, noneFailed, lists⟩ := bare_search_fails
  have plainly : ReadsPlainly Sample.config "ns"
      ((discover .standard Sample.config "ns").trace World.handle bareWorld) := by
    intro failure member
    cases readable _ member
  have cleansUp : CleansUp World.handle .standard Sample.config "ns" bareWorld bareReached :=
    ⟨_, Prod.ext searched rfl, rfl⟩
  obtain ⟨_exactly, _told, _idle, cleaned⟩ := cleans_up_exactly (World.keeps "ns") plainly
  obtain ⟨_rejected, _deletes, _unlisted, ends⟩ := cleaned bareReached cleansUp
  cases answered : (World.handle (.cluster (.listRecords "ns")) bareReached).1 with
  | error failure =>
      rw [answered] at lists
      cases lists
  | ok existing =>
      refine (ends existing answered).gone fun name failed => ?_
      obtain ⟨event, member, _isDelete, hasFailed⟩ := failed
      rw [noneFailed event member] at hasFailed
      cases hasFailed

end Sample

end Pass

end ClusterDiscovery

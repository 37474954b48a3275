/-
Application of a plan.

Mutations are made one after the other until one fails. A handler that keeps the records
of a namespace, with nobody else writing to them, makes of the records what the mutations
say; a call that fails changes nothing.
-/

import ClusterDiscovery.Proofs.Plan.Revision
import ClusterDiscovery.Proofs.Program.Execution

namespace ClusterDiscovery

variable {σ : Type}

def Mutation.call (space : String) : Mutation → ClusterCall
  | .create cluster => .createRecord cluster
  | .update cluster => .replaceRecord cluster
  | .delete name => .deleteRecord space name

def Mutation.isIn (space : String) : Mutation → Prop
  | .create cluster => cluster.space = space
  | .update cluster => cluster.space = space
  | .delete _ => True

/-- The handler keeps the records of a namespace. A listing shows them in some order, a
mutation that succeeds is made, and neither a call that fails nor what else a plan's
application performs changes them. -/
structure Handler.Keeps (handler : Handler σ) (space : String) (held : σ → List Cluster) :
    Prop where
  located : ∀ state, ∀ record ∈ held state, record.space = space
  listed : ∀ state records,
    (handler (.cluster (.listRecords space)) state).1 = Except.ok records →
    records.Perm (held state)
  listing : ∀ state, held (handler (.cluster (.listRecords space)) state).2 = held state
  made : ∀ (mutation : Mutation) state result, mutation.isIn space →
    (handler (.cluster (mutation.call space)) state).1 = Except.ok result →
    ∃ version, (mutation.revise version (held state)).Perm
      (held (handler (.cluster (mutation.call space)) state).2)
  refused : ∀ (mutation : Mutation) state failure,
    (handler (.cluster (mutation.call space)) state).1 = Except.error failure →
    held (handler (.cluster (mutation.call space)) state).2 = held state
  measured : ∀ measurement state, held (handler (.measure measurement) state).2 = held state
  nudged : ∀ state, held (handler .nudge state).2 = held state

theorem Mutation.writesRecord_call (mutation : Mutation) (space : String) :
    (Effect.cluster (mutation.call space)).writesRecord = true := by
  cases mutation <;> rfl

namespace Mutation

variable {handler : Handler σ} {space : String} {state : σ} {mutation : Mutation}

private theorem execute_perform_of_ok {result : (mutation.call space).Result}
    (made : (handler (.cluster (mutation.call space)) state).1 = Except.ok result) :
    (mutation.perform space).execute handler state =
      (.ok (.ok ()), (handler (.cluster (mutation.call space)) state).2) := by
  cases mutation <;> exact congrArg (fun answer => (Except.ok answer, _)) made

private theorem execute_perform_of_error {failure : Failure}
    (refused : (handler (.cluster (mutation.call space)) state).1 = Except.error failure) :
    (mutation.perform space).execute handler state =
      (.ok (.error failure), (handler (.cluster (mutation.call space)) state).2) := by
  cases mutation <;> exact congrArg (fun answer => (Except.ok answer, _)) refused

private theorem trace_perform :
    (mutation.perform space).trace handler state =
      [⟨.cluster (mutation.call space), (handler (.cluster (mutation.call space)) state).1⟩] := by
  cases mutation <;> rfl

theorem execute_apply_of_ok {result : (mutation.call space).Result}
    (made : (handler (.cluster (mutation.call space)) state).1 = Except.ok result) :
    (mutation.apply space).execute handler state =
      (.ok (.ok ()), (handler (.measure (.recordWrite mutation.action))
        (handler (.cluster (mutation.call space)) state).2).2) := by
  unfold apply
  rw [Routine.execute_bind_of_ok (Routine.execute_attempt_of_ok (execute_perform_of_ok made))]
  rfl

theorem trace_apply_of_ok {result : (mutation.call space).Result}
    (made : (handler (.cluster (mutation.call space)) state).1 = Except.ok result) :
    (mutation.apply space).trace handler state =
      [⟨.cluster (mutation.call space), Except.ok result⟩,
        ⟨.measure (.recordWrite mutation.action),
          (handler (.measure (.recordWrite mutation.action))
            (handler (.cluster (mutation.call space)) state).2).1⟩] := by
  unfold apply
  rw [Routine.trace_bind_of_ok (Routine.execute_attempt_of_ok (execute_perform_of_ok made)),
    Routine.trace_attempt, trace_perform, made]
  rfl

theorem execute_apply_of_error {failure : Failure}
    (refused : (handler (.cluster (mutation.call space)) state).1 = Except.error failure) :
    (mutation.apply space).execute handler state =
      (.ok (.error (failure.ofMutation mutation.action mutation.name)),
        (handler (.cluster (mutation.call space)) state).2) := by
  unfold apply
  rw [Routine.execute_bind_of_ok
    (Routine.execute_attempt_of_ok (execute_perform_of_error refused))]
  rfl

theorem trace_apply_of_error {failure : Failure}
    (refused : (handler (.cluster (mutation.call space)) state).1 = Except.error failure) :
    (mutation.apply space).trace handler state =
      [⟨.cluster (mutation.call space), Except.error failure⟩] := by
  unfold apply
  rw [Routine.trace_bind_of_ok
    (Routine.execute_attempt_of_ok (execute_perform_of_error refused)),
    Routine.trace_attempt, trace_perform, refused]
  rfl

theorem apply_ends (handler : Handler σ) (space : String) (mutation : Mutation) (state : σ) :
    (∃ reached, (mutation.apply space).execute handler state = (.ok (.ok ()), reached)) ∨
    (∃ failure,
      (handler (.cluster (mutation.call space)) state).1 = Except.error failure) := by
  cases answered : (handler (.cluster (mutation.call space)) state).1 with
  | ok result => exact Or.inl ⟨_, execute_apply_of_ok answered⟩
  | error failure => exact Or.inr ⟨failure, rfl⟩

theorem made_of_execute_apply {reached : σ}
    (ended : (mutation.apply space).execute handler state = (.ok (.ok ()), reached)) :
    ∃ result, (handler (.cluster (mutation.call space)) state).1 = Except.ok result ∧
      reached = (handler (.measure (.recordWrite mutation.action))
        (handler (.cluster (mutation.call space)) state).2).2 := by
  cases answered : (handler (.cluster (mutation.call space)) state).1 with
  | ok result =>
      rw [execute_apply_of_ok answered] at ended
      exact ⟨result, rfl, (Prod.ext_iff.mp ended).2.symm⟩
  | error failure =>
      rw [execute_apply_of_error answered] at ended
      cases ended

end Mutation

namespace Plan

variable {handler : Handler σ} {space : String} {held : σ → List Cluster}
  {state reached : σ} {mutations made : List Mutation} {mutation : Mutation}

theorem applyAll_cons (mutation : Mutation) (rest : List Mutation) :
    applyAll space (mutation :: rest) =
      mutation.apply space >>= fun _ => applyAll space rest := rfl

theorem applyAll_append (first second : List Mutation) :
    applyAll space (first ++ second) =
      applyAll space first >>= fun _ => applyAll space second := by
  induction first with
  | nil => exact (pure_bind () fun _ => applyAll space second).symm
  | cons mutation rest ih =>
      rw [List.cons_append, applyAll_cons, applyAll_cons, ih, bind_assoc]

/-- An application makes all mutations, or it makes some and then one fails. -/
theorem applyAll_ends (handler : Handler σ) (space : String) (mutations : List Mutation)
    (state : σ) :
    (∃ final, (applyAll space mutations).execute handler state = (.ok (.ok ()), final)) ∨
    (∃ made mutation rest reached failure, mutations = made ++ mutation :: rest ∧
      (applyAll space made).execute handler state = (.ok (.ok ()), reached) ∧
      (handler (.cluster (mutation.call space)) reached).1 = Except.error failure) := by
  induction mutations generalizing state with
  | nil => exact Or.inl ⟨state, rfl⟩
  | cons mutation rest ih =>
      rcases mutation.apply_ends handler space state with ⟨next, ended⟩ | ⟨failure, refused⟩
      · rcases ih next with ⟨final, endedRest⟩ |
          ⟨made, failing, later, reached, failure, same, endedMade, refused⟩
        · refine Or.inl ⟨final, ?_⟩
          rw [applyAll_cons, Routine.execute_bind_of_ok ended]
          exact endedRest
        · refine Or.inr ⟨mutation :: made, failing, later, reached, failure, ?_, ?_, refused⟩
          · rw [same]
            rfl
          · rw [applyAll_cons, Routine.execute_bind_of_ok ended]
            exact endedMade
      · exact Or.inr ⟨[], mutation, rest, state, failure, rfl, rfl, refused⟩

theorem revised_of_applyAll (keeps : handler.Keeps space held)
    (inSpace : ∀ mutation ∈ mutations, mutation.isIn space)
    (ended : (applyAll space mutations).execute handler state = (.ok (.ok ()), reached)) :
    Revised mutations (held state) (held reached) := by
  induction mutations generalizing state with
  | nil =>
      cases ended
      exact .nothing (List.Perm.refl _)
  | cons mutation rest ih =>
      rcases mutation.apply_ends handler space state with ⟨next, endedFirst⟩ |
        ⟨failure, refused⟩
      · obtain ⟨result, wasMade, sameNext⟩ := Mutation.made_of_execute_apply endedFirst
        rw [applyAll_cons, Routine.execute_bind_of_ok endedFirst] at ended
        have later := ih (fun other member => inSpace other (List.mem_cons_of_mem _ member)) ended
        have own := inSpace mutation List.mem_cons_self
        obtain ⟨version, changed⟩ := keeps.made mutation state result own wasMade
        rw [sameNext, keeps.measured] at later
        exact .write version (later.perm_left changed.symm)
      · rw [applyAll_cons,
          Routine.execute_bind_of_error (Mutation.execute_apply_of_error refused)] at ended
        cases ended

theorem trace_applyAll_of_ok
    (ended : (applyAll space mutations).execute handler state = (.ok (.ok ()), reached)) :
    writes ((applyAll space mutations).trace handler state) =
        mutations.map (fun mutation => .cluster (mutation.call space)) ∧
      ∀ event ∈ (applyAll space mutations).trace handler state, event.failed = false := by
  induction mutations generalizing state with
  | nil =>
      refine ⟨rfl, ?_⟩
      intro event member
      cases member
  | cons mutation rest ih =>
      rcases mutation.apply_ends handler space state with ⟨next, endedFirst⟩ |
        ⟨failure, refused⟩
      · obtain ⟨result, wasMade, _sameNext⟩ := Mutation.made_of_execute_apply endedFirst
        rw [applyAll_cons, Routine.execute_bind_of_ok endedFirst] at ended
        obtain ⟨sameWrites, noneFailed⟩ := ih ended
        rw [applyAll_cons, Routine.trace_bind_of_ok endedFirst,
          Mutation.trace_apply_of_ok wasMade]
        constructor
        · rw [writes_append, sameWrites, List.map_cons]
          unfold writes
          rw [List.map_cons, List.filter_cons_of_pos (mutation.writesRecord_call space)]
          rfl
        · intro event member
          rcases List.mem_append.mp member with inFirst | inRest
          · simp only [List.mem_cons, List.not_mem_nil, or_false] at inFirst
            rcases inFirst with rfl | rfl <;> rfl
          · exact noneFailed event inRest
      · rw [applyAll_cons,
          Routine.execute_bind_of_error (Mutation.execute_apply_of_error refused)] at ended
        cases ended

theorem execute_applyAll_of_error {failure : Failure} (rest : List Mutation)
    (ended : (applyAll space made).execute handler state = (.ok (.ok ()), reached))
    (refused : (handler (.cluster (mutation.call space)) reached).1 = Except.error failure) :
    (applyAll space (made ++ mutation :: rest)).execute handler state =
      (.ok (.error (failure.ofMutation mutation.action mutation.name)),
        (handler (.cluster (mutation.call space)) reached).2) := by
  rw [applyAll_append, Routine.execute_bind_of_ok ended, applyAll_cons,
    Routine.execute_bind_of_error (Mutation.execute_apply_of_error refused)]

theorem trace_applyAll_of_error {failure : Failure} (rest : List Mutation)
    (ended : (applyAll space made).execute handler state = (.ok (.ok ()), reached))
    (refused : (handler (.cluster (mutation.call space)) reached).1 = Except.error failure) :
    (applyAll space (made ++ mutation :: rest)).trace handler state =
      (applyAll space made).trace handler state ++
        [⟨.cluster (mutation.call space), Except.error failure⟩] := by
  rw [applyAll_append, Routine.trace_bind_of_ok ended, applyAll_cons,
    Routine.trace_bind_of_error (Mutation.execute_apply_of_error refused),
    Mutation.trace_apply_of_error refused]

theorem applyAll_advances (keeps : handler.Keeps space held)
    (inSpace : ∀ mutation ∈ mutations, mutation.isIn space) (state : σ) :
    ∃ result made rest final,
      (applyAll space mutations).execute handler state = (.ok result, final) ∧
      mutations = made ++ rest ∧ Revised made (held state) (held final) ∧
      (result = .ok () → rest = []) ∧
      ((∀ event ∈ (applyAll space mutations).trace handler state, event.failed = false) →
        result = .ok ()) := by
  rcases applyAll_ends handler space mutations state with
    ⟨final, ended⟩ | ⟨made, mutation, rest, reached, failure, same, ended, refused⟩
  · exact ⟨.ok (), mutations, [], final, ended, (List.append_nil _).symm,
      revised_of_applyAll keeps inSpace ended, fun _ => rfl, fun _ => rfl⟩
  · subst same
    have revised := revised_of_applyAll keeps
      (fun other member => inSpace other (List.mem_append_left _ member)) ended
    have stopped := execute_applyAll_of_error rest ended refused
    have seen := trace_applyAll_of_error rest ended refused
    refine ⟨_, made, mutation :: rest, _, stopped, rfl, ?_, ?_, ?_⟩
    · rw [keeps.refused mutation reached failure refused]
      exact revised
    · intro impossible
      cases impossible
    · intro noneFailed
      rw [seen] at noneFailed
      have lastFailed := noneFailed _ (List.mem_append_right _ List.mem_cons_self)
      cases lastFailed

end Plan

end ClusterDiscovery

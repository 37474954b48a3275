/-
The joint fixpoint of both loops.

However discovery passes that find one set and overlay passes that read one list of ids take
turns, once a discovery pass has been followed by an overlay pass the records are those of
the set, with the managed pairs that the ids ask for. They are the same records whatever the
turns were, and no later pass of either loop writes anything.
-/

import ClusterDiscovery.Proofs.Overlay.Rounds

namespace ClusterDiscovery

open Cluster (Alike Distinct named? overlaid shown? unversioned within)

variable {σ : Type} {handler : Handler σ} {records : σ → List Cluster} {aim : Aim}
  {state reached final : σ}

theorem Plan.settled?_unversioned (config : Config) (canonical : Keyed ClusterSpec)
    (target : String) (current : Option Cluster) :
    (settled? config canonical target current).map unversioned =
      settled? config canonical target (current.map unversioned) := by
  unfold settled?
  rw [Option.map_map]
  congr 1
  funext desired
  cases current with
  | none => rfl
  | some record =>
      change unversioned (if desired.sameAs record.spec then record else record.withSpec desired) =
        if desired.sameAs record.spec then record.unversioned
        else record.unversioned.withSpec desired
      split <;> rfl

namespace Pass

variable {settings : Settings} {config : Config} {space : String}
  {canonical : Keyed ClusterSpec} {discovered : σ}

private theorem apply_elsewhere (houses : handler.Houses records) {plan : Plan}
    (stays : ∀ mutation ∈ plan.mutations, mutation.isIn space) {other : String}
    (different : other ≠ space) :
    within other (records ((plan.apply space >>= fun _ =>
        Routine.perform .nudge).execute handler state).2) =
      within other (records state) := by
  let permits (effect : Effect) : Prop := effect.changesRecord = false ∨
    ∃ mutation : Mutation, mutation.isIn space ∧ effect = .cluster (mutation.call space)
  have applied : (plan.apply space).Obeys (Discipline.plain permits) (fun _ _ => True) () :=
    Plan.applyAll_stage
      (fun _ mutation member _ =>
        ⟨Or.inr ⟨mutation, stays mutation member, rfl⟩, fun _ => trivial⟩)
      (fun _ _ _ => ⟨Or.inl rfl, fun _ => trivial⟩) trivial
  have obeys : (plan.apply space >>= fun _ => Routine.perform .nudge).Obeys
      (Discipline.plain permits) (fun _ _ => True) () :=
    applied.bind (fun _ _ _ => (Routine.obeys_perform (e := .nudge)).mpr
      ⟨Or.inl rfl, fun _ => trivial⟩) (fun _ _ _ => trivial)
  let view (state : σ) : List Cluster := within other (records state)
  have kept (effect : Effect) (state : σ) (permitted : permits effect) :
      view (handler effect state).2 = view state := by
    rcases permitted with unchanging | ⟨mutation, inSpace, rfl⟩
    · exact congrArg (within other) (houses.still effect state unchanging)
    · exact houses.elsewhere space other mutation state inSpace different
  exact obeys.program.preserves kept state

theorem converge_elsewhere (houses : handler.Houses records)
    (inSpace : config.metadata.space = some space)
    (distinct : Distinct (within space (records state))) {other : String}
    (different : other ≠ space) :
    within other (records ((converge config space canonical).execute handler state).2) =
      within other (records state) := by
  have sameListed := congrArg (within other)
    (houses.still (.cluster (.listRecords space)) state rfl)
  cases answered : (handler (.cluster (.listRecords space)) state).1 with
  | error failure =>
      have ended : (converge config space canonical).execute handler state =
          (.ok (.error failure), (handler (.cluster (.listRecords space)) state).2) :=
        Routine.execute_call_bind_of_error answered
      rw [ended]
      exact sameListed
  | ok listing =>
      obtain ⟨existing, listed⟩ : ∃ existing : List Cluster,
          (handler (.cluster (.listRecords space)) state).1 = Except.ok existing :=
        ⟨listing, answered⟩
      have rearranged := (houses.keeps space).listed state existing listed
      rw [execute_converge_of_listed listed, ← sameListed]
      apply apply_elsewhere houses _ different
      intro mutation member
      apply Plan.isIn_of_mem_mutations (distinct.perm rearranged.symm) inSpace _ member
      intro record isListed
      exact Cluster.space_of_mem_within (rearranged.mem_iff.mp isListed)

theorem state_run_of_discovered
    (fetched : (discover settings config space).execute handler state =
      (.ok (.ok canonical), discovered)) :
    ((run settings config space).execute handler state).2 =
      ((converge config space canonical).execute handler discovered).2 := by
  rw [execute_run_of_discovered fetched, Routine.execute_bind]
  rcases (converge config space canonical).execute handler discovered with ⟨ended, reached⟩
  cases ended with
  | error reason => rfl
  | ok result => cases result <;> rfl

theorem run_makes (houses : handler.Houses records)
    (distinct : ((records state).map Cluster.key).Nodup)
    (fetched : (discover settings aim.config aim.space).execute handler state =
      (.ok (.ok aim.canonical), discovered))
    (noneFailed : ∀ event ∈ (run settings aim.config aim.space).trace handler state,
      event.failed = false)
    {result : Except Halt (Except Failure (Action × PassOutcome))}
    (ended : (run settings aim.config aim.space).execute handler state = (result, reached)) :
    ((records reached).map Cluster.key).Nodup ∧
      ∀ place target, shown? (records reached) place target =
        aim.makes place target (shown? (records state) place target) .discovery := by
  have inside := Cluster.distinct_within distinct aim.space
  obtain ⟨final, sameEnd, distinctFinal, settles⟩ :=
    run_reaches (houses.keeps aim.space) (houses.undisturbed_within aim.space) aim.inSpace
      inside fetched noneFailed
  obtain rfl : final = reached := congrArg Prod.snd (sameEnd.symm.trans ended)
  have elsewhere (other : String) (different : other ≠ aim.space) :
      within other (records final) = within other (records state) := by
    rw [← held_discover houses.undisturbed fetched] at inside ⊢
    have sameState : final =
        ((converge aim.config aim.space aim.canonical).execute handler discovered).2 := by
      rw [← state_run_of_discovered fetched, sameEnd]
    rw [sameState]
    exact converge_elsewhere houses aim.inSpace inside different
  constructor
  · apply Cluster.nodup_keys_of_within
    intro place
    by_cases own : place = aim.space
    · rw [own]
      exact distinctFinal
    · rw [elsewhere place own]
      exact Cluster.distinct_within distinct place
  · intro place target
    unfold Aim.makes shown?
    by_cases own : place = aim.space
    · rw [if_pos own, own, settles target]
      exact Plan.settled?_unversioned aim.config aim.canonical target _
    · rw [if_neg own, elsewhere place own]

end Pass

theorem Overlay.pass_makes (houses : handler.Houses records)
    (distinct : ((records state).map Cluster.key).Nodup)
    (noneFailed : ∀ event ∈ pass.trace handler state, event.failed = false)
    (reads : Reads aim.managed (pass.trace handler state))
    {result : Except Halt Summary} (ended : pass.run handler state = (result, reached)) :
    ((records reached).map Cluster.key).Nodup ∧
      ∀ place target, shown? (records reached) place target =
        aim.makes place target (shown? (records state) place target) .overlay := by
  have alike := pass_alike houses distinct noneFailed reads ended
  have sameKeys : ((records state).map (overlaid aim.managed)).map Cluster.key =
      (records state).map Cluster.key := by
    rw [List.map_map]
    exact List.map_congr_left fun record _member => Cluster.key_overlaid aim.managed record
  have distinctReached : ((records reached).map Cluster.key).Nodup := by
    refine alike.keys.symm.nodup ?_
    rw [sameKeys]
    exact distinct
  refine ⟨distinctReached, fun place target => ?_⟩
  rw [alike.shown?_eq distinctReached]
  exact Cluster.shown?_map_overlaid aim.managed (records state) place target

/-- Passes of both loops that take turns without a failed call: which loops they are of, what
they perform, and where they lead. In between the records are left alone. -/
inductive Rounds (handler : Handler σ) (records : σ → List Cluster) (aim : Aim) :
    List Loop → σ → List Event → σ → Prop where
  | none {state : σ} : Rounds handler records aim [] state [] state
  | waits {loops : List Loop} {state resumed final : σ} {events : List Event}
      (alone : (records resumed).Perm (records state))
      (later : Rounds handler records aim loops resumed events final) :
      Rounds handler records aim loops state events final
  | discovery {settings : Settings} {loops : List Loop} {state discovered reached final : σ}
      {events : List Event} {result : Except Halt (Except Failure (Action × PassOutcome))}
      (fetched : (Pass.discover settings aim.config aim.space).execute handler state =
        (.ok (.ok aim.canonical), discovered))
      (noneFailed : ∀ event ∈ (Pass.run settings aim.config aim.space).trace handler state,
        event.failed = false)
      (ended : (Pass.run settings aim.config aim.space).execute handler state =
        (result, reached))
      (later : Rounds handler records aim loops reached events final) :
      Rounds handler records aim (.discovery :: loops) state
        ((Pass.run settings aim.config aim.space).trace handler state ++ events) final
  | overlay {loops : List Loop} {state reached final : σ} {events : List Event}
      {result : Except Halt Overlay.Summary}
      (noneFailed : ∀ event ∈ Overlay.pass.trace handler state, event.failed = false)
      (reads : Overlay.Reads aim.managed (Overlay.pass.trace handler state))
      (ended : Overlay.pass.run handler state = (result, reached))
      (later : Rounds handler records aim loops reached events final) :
      Rounds handler records aim (.overlay :: loops) state
        (Overlay.pass.trace handler state ++ events) final

/-- The records are what an aim asks for: in its namespace those of the set, and everywhere
with the managed pairs that the ids ask for. -/
structure Aim.Reached (aim : Aim) (records : List Cluster) : Prop where
  settled : Plan.Settled aim.canonical (within aim.space records)
  paired : ∀ record ∈ records, (record.spec.isManaged = true ↔ record.name ∈ aim.managed) ∧
    (record.hasManagedLabel = true ↔ record.name ∈ aim.managed)

namespace Aim.Reached

theorem perm {others : List Cluster} (goal : aim.Reached (records state))
    (rearranged : (records state).Perm others) : aim.Reached others where
  settled := goal.settled.perm (rearranged.filter _)
  paired := fun record member => goal.paired record (rearranged.mem_iff.mpr member)

theorem managedMatches (goal : aim.Reached (records state)) {record : Cluster}
    (member : record ∈ records state) :
    record.managedMatches (aim.managed.contains record.name) = true := by
  obtain ⟨flag, label⟩ := goal.paired record member
  rw [← List.contains_iff_mem] at flag label
  rw [Cluster.managedMatches_iff]
  exact ⟨Bool.eq_iff_iff.mpr flag, Bool.eq_iff_iff.mpr label⟩

end Aim.Reached

/-- An aim is reached where every record is what the two passes make of some record. -/
theorem Aim.reached_of_makes {held : List Cluster} (distinct : (held.map Cluster.key).Nodup)
    (made : ∀ place target, ∃ before, shown? held place target =
      aim.makes place target (aim.makes place target before .discovery) .overlay) :
    aim.Reached held := by
  constructor
  · have settles (target : String) :
        Plan.settled? aim.config aim.canonical target (named? (within aim.space held) target) =
          named? (within aim.space held) target := by
      obtain ⟨before, shows⟩ := made aim.space target
      have fixed := aim.makes_before_discovery aim.space target before
      rw [← shows] at fixed
      unfold makes at fixed
      rw [if_pos rfl] at fixed
      unfold shown? at fixed
      rw [← Plan.settled?_unversioned] at fixed
      exact Plan.settled?_of_settled fixed.symm
    exact Plan.settled_of_forall (Cluster.distinct_within distinct aim.space) settles
  · intro record member
    obtain ⟨before, shows⟩ := made record.space record.name
    rw [Cluster.shown?_of_mem distinct member] at shows
    obtain ⟨old, _found, same⟩ := Option.map_eq_some_iff.mp shows.symm
    have sameName := congrArg Cluster.name same
    rw [Cluster.name_overlaid, Cluster.name_unversioned] at sameName
    have upToDate := Cluster.managedMatches_overlaid aim.managed old
    rw [same, sameName, Cluster.managedMatches_iff] at upToDate
    rw [← List.contains_iff_mem]
    exact ⟨Bool.eq_iff_iff.mp upToDate.1, Bool.eq_iff_iff.mp upToDate.2⟩

namespace Rounds

variable {loops : List Loop} {events : List Event}

theorem makesAll (houses : handler.Houses records)
    (rounds : Rounds handler records aim loops state events final)
    (distinct : ((records state).map Cluster.key).Nodup) :
    ((records final).map Cluster.key).Nodup ∧
      ∀ place target, shown? (records final) place target =
        aim.makesAll place target loops (shown? (records state) place target) := by
  induction rounds with
  | none => exact ⟨distinct, fun _ _ => rfl⟩
  | waits alone later ih =>
      have alike := Alike.of_perm alone.symm
      obtain ⟨distinctFinal, becomes⟩ := ih (alike.keys.nodup distinct)
      refine ⟨distinctFinal, fun place target => ?_⟩
      rw [becomes, alike.shown?_eq distinct]
  | discovery fetched noneFailed ended later ih =>
      obtain ⟨distinctReached, first⟩ := Pass.run_makes houses distinct fetched noneFailed ended
      obtain ⟨distinctFinal, becomes⟩ := ih distinctReached
      refine ⟨distinctFinal, fun place target => ?_⟩
      rw [becomes, first]
      rfl
  | overlay noneFailed reads ended later ih =>
      obtain ⟨distinctReached, first⟩ := Overlay.pass_makes houses distinct noneFailed reads ended
      obtain ⟨distinctFinal, becomes⟩ := ih distinctReached
      refine ⟨distinctFinal, fun place target => ?_⟩
      rw [becomes, first]
      rfl

/-- Where the aim is reached, further passes change nothing. -/
theorem unchanging (houses : handler.Houses records)
    (rounds : Rounds handler records aim loops state events final)
    (goal : aim.Reached (records state)) :
    (∀ event ∈ events, event.effect.changesRecord = false) ∧
      (records final).Perm (records state) := by
  induction rounds with
  | none =>
      refine ⟨?_, List.Perm.refl _⟩
      intro event absent
      cases absent
  | waits alone later ih =>
      obtain ⟨laterUnchanging, sameFinal⟩ := ih (goal.perm alone.symm)
      exact ⟨laterUnchanging, sameFinal.trans alone⟩
  | @discovery settings loops state discovered reached final events result fetched noneFailed
      ended later ih =>
      have settled : Plan.Settled aim.canonical (within aim.space (records discovered)) := by
        rw [Pass.held_discover houses.undisturbed fetched]
        exact goal.settled
      have ownUnchanging : ∀ event ∈
          (Pass.run settings aim.config aim.space).trace handler state,
          event.effect.changesRecord = false := by
        intro event member
        rw [Pass.trace_run_of_discovered fetched] at member
        rcases List.mem_append.mp member with searching | converging
        · exact Pass.unchanging_trace_discover searching
        · exact Pass.unchanging_trace_converge (houses.keeps aim.space) settled converging
      have sameReached : records reached = records state := by
        have kept := Program.run_leaves houses.still ownUnchanging
        change records ((Pass.run settings aim.config aim.space).execute handler state).2 = _
          at kept
        rw [ended] at kept
        exact kept
      rw [← sameReached] at goal ⊢
      obtain ⟨laterUnchanging, sameFinal⟩ := ih goal
      exact ⟨List.forall_mem_append.mpr ⟨ownUnchanging, laterUnchanging⟩, sameFinal⟩
  | @overlay loops state reached final events result noneFailed reads ended later ih =>
      have ownUnchanging : ∀ event ∈ Overlay.pass.trace handler state,
          event.effect.changesRecord = false := fun event member =>
        Overlay.unchanging_trace_pass houses (fun _ present => goal.managedMatches present) reads
          member
      have sameReached : records reached = records state := by
        have kept := Program.run_leaves houses.still ownUnchanging
        rw [ended] at kept
        exact kept
      rw [← sameReached] at goal ⊢
      obtain ⟨laterUnchanging, sameFinal⟩ := ih goal
      exact ⟨List.forall_mem_append.mpr ⟨ownUnchanging, laterUnchanging⟩, sameFinal⟩

/-- Rounds with a discovery pass and an overlay pass after it reach their aim. From the same
start they all end with the same records, and after them no pass of either loop writes a
record or a managed pair. -/
theorem reach_joint_fixpoint (houses : handler.Houses records)
    (distinct : ((records state).map Cluster.key).Nodup)
    (rounds : Rounds handler records aim loops state events final)
    (ordered : [Loop.discovery, Loop.overlay].Sublist loops) :
    aim.Reached (records final) ∧
    (∀ others otherEvents otherFinal,
      Rounds handler records aim others state otherEvents otherFinal →
      [Loop.discovery, Loop.overlay].Sublist others →
      Alike (records final) (records otherFinal)) ∧
    ∀ further laterEvents laterFinal,
      Rounds handler records aim further final laterEvents laterFinal →
      (∀ event ∈ laterEvents, event.effect.changesRecord = false) ∧
        (records laterFinal).Perm (records final) := by
  obtain ⟨distinctFinal, becomes⟩ := rounds.makesAll houses distinct
  have made (place target : String) : shown? (records final) place target =
      aim.makes place target (aim.makes place target (shown? (records state) place target)
        .discovery) .overlay := by
    rw [becomes]
    exact Aim.makesAll_of_sublist ordered _
  have goal : aim.Reached (records final) :=
    Aim.reached_of_makes distinctFinal fun place target => ⟨_, made place target⟩
  refine ⟨goal, ?_, ?_⟩
  · intro others otherEvents otherFinal otherRounds otherOrdered
    obtain ⟨distinctOther, otherBecomes⟩ := otherRounds.makesAll houses distinct
    apply Cluster.alike_of_shown? distinctFinal distinctOther
    intro place target
    rw [made, otherBecomes, Aim.makesAll_of_sublist otherOrdered]
  · intro further laterEvents laterFinal furtherRounds
    exact furtherRounds.unchanging houses goal

end Rounds

namespace Sample

def task : Aim := ⟨config, "ns", rfl, canonical ["b"], ["b"]⟩

def unsettled : World :=
  { world [record "c"] with store := { (world [record "c"]).store with managedIds := ["b"] } }

def discovered : World :=
  ((Pass.run .standard config "ns").execute (granting ["b"]) unsettled).2

def areOwn : Except Failure (List String) → Bool
  | .ok ids => ids == ["b"]
  | .error _ => true

def readsOwn : Event → Bool
  | ⟨.cluster .listManagedIds, answer⟩ => areOwn answer
  | _ => true

theorem reads_of_readsOwn {events : List Event} (all : events.all readsOwn = true) :
    Overlay.Reads task.managed events := by
  intro ids member name
  have same := List.all_eq_true.mp all _ member
  rw [show ids = ["b"] from eq_of_beq same]
  exact Iff.rfl

end Sample

namespace Rounds

/-- A discovery pass replaces the one record, and an overlay pass marks the new one. -/
theorem reach_joint_fixpoint_sample :
    ∃ events final, Rounds (Sample.granting ["b"]) World.records Sample.task
        [.discovery, .overlay] Sample.unsettled events final ∧
      Sample.task.Reached (World.records final) ∧
      ∀ record ∈ World.records final, record.name = "b" → record.spec.isManaged = true := by
  have check : (Pass.discover .standard Sample.config "ns").yields (Sample.granting ["b"])
        Sample.unsettled (fun found _ => found = Sample.canonical ["b"]) = true ∧
      ((Pass.run .standard Sample.config "ns").trace (Sample.granting ["b"])
        Sample.unsettled).all (fun event => !event.failed) = true ∧
      (Overlay.pass.trace (Sample.granting ["b"]) Sample.discovered).all
        (fun event => !event.failed) = true ∧
      (Overlay.pass.trace (Sample.granting ["b"]) Sample.discovered).all Sample.readsOwn =
        true := by
    decide +kernel
  obtain ⟨fetches, discoveryUnfailing, overlayUnfailing, readsOwn⟩ := check
  obtain ⟨found, reached, fetched, same⟩ := Routine.yields_eq_true_iff.mp fetches
  rw [decide_eq_true_eq] at same
  subst same
  have second : Rounds (Sample.granting ["b"]) World.records Sample.task [.overlay]
      Sample.discovered _ (Overlay.pass.run (Sample.granting ["b"]) Sample.discovered).2 :=
    .overlay (fun event member => by
        simpa using List.all_eq_true.mp overlayUnfailing event member)
      (Sample.reads_of_readsOwn readsOwn) (Prod.ext rfl rfl) .none
  have rounds : Rounds (Sample.granting ["b"]) World.records Sample.task
      [.discovery, .overlay] Sample.unsettled _ _ :=
    .discovery fetched (fun event member => by
        simpa using List.all_eq_true.mp discoveryUnfailing event member) (Prod.ext rfl rfl)
      second
  have goal := (reach_joint_fixpoint (World.answering_houses _ _) (by decide) rounds
    (List.Sublist.refl _)).1
  refine ⟨_, _, rounds, goal, ?_⟩
  intro record member known
  rw [(goal.paired record member).1, known]
  exact List.mem_cons_self

end Rounds

end ClusterDiscovery

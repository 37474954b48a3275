/-
What an overlay pass asks for, and what it counts.

A pass that has read its two lists asks for one managed pair for each record whose pair is
stale, in the order of the list. A write that fails is counted and stops nothing, so the
counters of the pass agree with what was asked and how it was answered.
-/

import ClusterDiscovery.Proofs.Overlay.Repair

namespace ClusterDiscovery.Overlay

structure Mark where
  cluster : Cluster
  managed : Bool
  succeeded : Bool

def Mark.lost (mark : Mark) : Bool := !mark.succeeded

def markOf? (event : Event) : Option Mark :=
  match event.effect with
  | .cluster (.setManaged cluster managed) => some ⟨cluster, managed, !event.failed⟩
  | _ => none

def marks (events : List Event) : List Mark := events.filterMap markOf?

variable {σ : Type} {handler : Handler σ} {state : σ} {managedIds : List String}
  {listing : List Cluster} {cluster : Cluster} {before after : Summary} {events : List Event}

def isStale (managedIds : List String) (cluster : Cluster) : Bool :=
  !cluster.managedMatches (managedIds.contains cluster.name)

theorem isStale_eq_true_iff : isStale managedIds cluster = true ↔
    cluster.managedMatches (managedIds.contains cluster.name) = false := by
  simp [isStale]

theorem isStale_eq_false_iff : isStale managedIds cluster = false ↔
    cluster.managedMatches (managedIds.contains cluster.name) = true := by
  simp [isStale]

/-- What has been done for a list of records: which pairs were asked for, and what was
counted since a summary. -/
structure Tallied (managedIds : List String) (listing : List Cluster) (before after : Summary)
    (events : List Event) : Prop where
  asked : (marks events).map (fun mark => (mark.cluster, mark.managed)) =
    (listing.filter (isStale managedIds)).map fun cluster =>
      (cluster, managedIds.contains cluster.name)
  examined : after.examined = before.examined + listing.length
  updated : after.updated = before.updated + (marks events).countP Mark.succeeded
  failed : after.failed = before.failed + (marks events).countP Mark.lost
  only : ∀ event ∈ events, (markOf? event).isSome = true ∨
    ∃ measurement, event.effect = .measure measurement

namespace Tallied

theorem nothing : Tallied managedIds [] before before [] := by
  refine ⟨rfl, rfl, rfl, rfl, ?_⟩
  intro event absent
  cases absent

/-- A record whose pair is up to date is looked at and nothing is asked for. -/
theorem kept (upToDate : isStale managedIds cluster = false)
    (tallied : Tallied managedIds listing before.kept after events) :
    Tallied managedIds (cluster :: listing) before after events := by
  obtain ⟨asked, examined, updated, failed, only⟩ := tallied
  refine ⟨?_, ?_, updated, failed, only⟩
  · rw [List.filter_cons_of_neg (ne_true_of_eq_false upToDate)]
    exact asked
  · rw [examined, List.length_cons]
    change before.examined + 1 + _ = _
    omega

theorem wrote (stale : isStale managedIds cluster = true)
    (tallied : Tallied managedIds listing before.wrote after events) :
    Tallied managedIds (cluster :: listing) before after
      (⟨.cluster (.setManaged cluster (managedIds.contains cluster.name)), Except.ok ()⟩ ::
        ⟨.measure (.overlayUpdate (managedIds.contains cluster.name)), ()⟩ :: events) := by
  obtain ⟨asked, examined, updated, failed, only⟩ := tallied
  have first : marks (⟨.cluster (.setManaged cluster (managedIds.contains cluster.name)),
      Except.ok ()⟩ :: ⟨.measure (.overlayUpdate (managedIds.contains cluster.name)), ()⟩ ::
        events) = ⟨cluster, managedIds.contains cluster.name, true⟩ :: marks events := rfl
  constructor
  · rw [first, List.map_cons, asked, List.filter_cons_of_pos stale, List.map_cons]
  · rw [examined, List.length_cons]
    change before.examined + 1 + _ = _
    omega
  · rw [first, updated, List.countP_cons_of_pos rfl]
    change before.updated + 1 + _ = _
    omega
  · rw [first, failed, List.countP_cons_of_neg Bool.false_ne_true]
    rfl
  · intro event performed
    rcases List.mem_cons.mp performed with rfl | later
    · exact Or.inl rfl
    · rcases List.mem_cons.mp later with rfl | later
      · exact Or.inr ⟨_, rfl⟩
      · exact only event later

theorem missed {failure : Failure} (stale : isStale managedIds cluster = true)
    (tallied : Tallied managedIds listing before.missed after events) :
    Tallied managedIds (cluster :: listing) before after
      (⟨.cluster (.setManaged cluster (managedIds.contains cluster.name)),
        Except.error failure⟩ :: events) := by
  obtain ⟨asked, examined, updated, failed, only⟩ := tallied
  have first : marks (⟨.cluster (.setManaged cluster (managedIds.contains cluster.name)),
      Except.error failure⟩ :: events) =
        ⟨cluster, managedIds.contains cluster.name, false⟩ :: marks events := rfl
  constructor
  · rw [first, List.map_cons, asked, List.filter_cons_of_pos stale, List.map_cons]
  · rw [examined, List.length_cons]
    change before.examined + 1 + _ = _
    omega
  · rw [first, updated, List.countP_cons_of_neg Bool.false_ne_true]
    rfl
  · rw [first, failed, List.countP_cons_of_pos rfl]
    change before.failed + 1 + _ = _
    omega
  · intro event performed
    rcases List.mem_cons.mp performed with rfl | later
    · exact Or.inl rfl
    · exact only event later

theorem of_mem_marks (tallied : Tallied managedIds listing before after events) {mark : Mark}
    (member : mark ∈ marks events) :
    mark.cluster ∈ listing ∧ isStale managedIds mark.cluster = true ∧
      mark.managed = managedIds.contains mark.cluster.name := by
  have asked := List.mem_map_of_mem (f := fun mark => (mark.cluster, mark.managed)) member
  rw [tallied.asked] at asked
  obtain ⟨record, isListed, same⟩ := List.mem_map.mp asked
  obtain ⟨listed, stale⟩ := List.mem_filter.mp isListed
  obtain ⟨rfl, sameValue⟩ := Prod.mk.inj same
  exact ⟨listed, stale, sameValue.symm⟩

end Tallied

section Steps

variable {rest : List Cluster} {next : σ} (stale : isStale managedIds cluster = true)
include stale

theorem repair_wrote
    (answered : handler (.cluster (.setManaged cluster (managedIds.contains cluster.name))) state =
      (Except.ok (), next)) :
    let measured := (handler (.measure (.overlayUpdate (managedIds.contains cluster.name))) next).2
    (repair managedIds before (cluster :: rest)).run handler state =
        (repair managedIds before.wrote rest).run handler measured ∧
      (repair managedIds before (cluster :: rest)).trace handler state =
        ⟨.cluster (.setManaged cluster (managedIds.contains cluster.name)), Except.ok ()⟩ ::
          ⟨.measure (.overlayUpdate (managedIds.contains cluster.name)), ()⟩ ::
            (repair managedIds before.wrote rest).trace handler measured := by
  rw [repair_stale (isStale_eq_true_iff.mp stale)]
  simp only [Program.run, Program.trace, answered]
  exact ⟨trivial, rfl⟩

theorem repair_missed {failure : Failure}
    (answered : handler (.cluster (.setManaged cluster (managedIds.contains cluster.name))) state =
      (Except.error failure, next)) :
    (repair managedIds before (cluster :: rest)).run handler state =
        (repair managedIds before.missed rest).run handler next ∧
      (repair managedIds before (cluster :: rest)).trace handler state =
        ⟨.cluster (.setManaged cluster (managedIds.contains cluster.name)),
          Except.error failure⟩ :: (repair managedIds before.missed rest).trace handler next := by
  rw [repair_stale (isStale_eq_true_iff.mp stale)]
  simp only [Program.run, Program.trace, answered]
  exact ⟨trivial, trivial⟩

end Steps

/-- The repair of a list of records comes to its end whatever is answered. -/
theorem repair_tallied (handler : Handler σ) (managedIds : List String) (before : Summary)
    (listing : List Cluster) (state : σ) :
    ∃ after reached,
      (repair managedIds before listing).run handler state = (.ok after, reached) ∧
        Tallied managedIds listing before after
          ((repair managedIds before listing).trace handler state) := by
  induction listing generalizing before state with
  | nil => exact ⟨before, state, rfl, .nothing⟩
  | cons cluster rest ih =>
      cases stale : isStale managedIds cluster with
      | false =>
          rw [repair_kept (isStale_eq_false_iff.mp stale)]
          obtain ⟨after, reached, ended, tallied⟩ := ih before.kept state
          exact ⟨after, reached, ended, tallied.kept stale⟩
      | true =>
          cases answered : handler (.cluster (.setManaged cluster
            (managedIds.contains cluster.name))) state with
          | mk answer next =>
              cases answer with
              | ok done =>
                  obtain ⟨sameRun, sameTrace⟩ := repair_wrote stale answered
                  rw [sameRun, sameTrace]
                  obtain ⟨after, reached, ended, tallied⟩ := ih before.wrote
                    (handler (.measure (.overlayUpdate (managedIds.contains cluster.name))) next).2
                  exact ⟨after, reached, ended, tallied.wrote stale⟩
              | error failure =>
                  obtain ⟨sameRun, sameTrace⟩ := repair_missed stale answered
                  rw [sameRun, sameTrace]
                  obtain ⟨after, reached, ended, tallied⟩ := ih before.missed next
                  exact ⟨after, reached, ended, tallied.missed stale⟩

def Unread (events : List Event) : Prop :=
  ∃ event ∈ events, event.failed = true ∧
    (event.effect = .cluster .listAllRecords ∨ event.effect = .cluster .listManagedIds)

/-- A pass has left a failed write behind. -/
def LeavesBehind (events : List Event) : Prop := ∃ mark ∈ marks events, mark.lost = true

theorem leavesBehind_iff : LeavesBehind events ↔ 0 < (marks events).countP Mark.lost :=
  List.countP_pos_iff.symm

/-- A pass comes to its end whatever is answered, and has counted the writes that failed. -/
theorem pass_counts (handler : Handler σ) (state : σ) :
    ∃ summary reached, pass.run handler state = (.ok summary, reached) ∧
      (0 < summary.failed ↔ LeavesBehind (pass.trace handler state)) := by
  have goes := pass_goes handler state
  generalize pass.trace handler state = events at goes
  generalize pass.run handler state = outcome at goes
  have idle : 0 < Summary.nothing.failed ↔ (0 : Nat) < 0 := Iff.rfl
  cases goes with
  | unlisted | empty | unread =>
      refine ⟨.nothing, _, rfl, ?_⟩
      rw [leavesBehind_iff]
      exact idle
  | @repairs listing managedIds asked read listed answered =>
      obtain ⟨after, reached, ended, tallied⟩ :=
        repair_tallied handler managedIds .nothing listing read
      refine ⟨after, reached, ended, ?_⟩
      have counted := tallied.failed
      rw [leavesBehind_iff, counted]
      change 0 < 0 + _ ↔ 0 < _
      rw [Nat.zero_add]
      rfl

end ClusterDiscovery.Overlay

/-
Repair of managed pairs.

An overlay pass makes the pair of each record say whether its cluster is managed. If no call
fails, the records after the pass are those before it with their pairs put right, in every
namespace; if no pair is stale, the pass writes nothing.
-/

import ClusterDiscovery.Overlay.Pass
import ClusterDiscovery.Proofs.Pass.Discovery
import ClusterDiscovery.Proofs.Registry.Basic

namespace ClusterDiscovery

namespace Cluster

theorem managedMatches_iff {cluster : Cluster} {managed : Bool} :
    cluster.managedMatches managed = true ↔
      cluster.spec.isManaged = managed ∧ cluster.hasManagedLabel = managed := by
  cases managed <;> simp [managedMatches, isManaged]

theorem managedMatches_setManaged (cluster : Cluster) (managed : Bool) :
    (cluster.setManaged managed).managedMatches managed = true := by
  have paired : (cluster.setManaged managed).Paired :=
    cluster.paired_setManaged managed (cluster.setManaged managed).metadata.resourceVersion
  have flag : (cluster.setManaged managed).spec.isManaged = managed := rfl
  rw [managedMatches_iff]
  exact ⟨flag, paired.symm.trans flag⟩

def overlaid (managed : List String) (cluster : Cluster) : Cluster :=
  if cluster.managedMatches (managed.contains cluster.name) then cluster
  else cluster.setManaged (managed.contains cluster.name)

variable {managed : List String} {cluster : Cluster}

theorem overlaid_of_matches
    (upToDate : cluster.managedMatches (managed.contains cluster.name) = true) :
    cluster.overlaid managed = cluster := if_pos upToDate

theorem overlaid_of_stale
    (stale : cluster.managedMatches (managed.contains cluster.name) = false) :
    cluster.overlaid managed = cluster.setManaged (managed.contains cluster.name) := by
  unfold overlaid
  rw [stale, if_neg Bool.false_ne_true]

theorem contains_congr {ids : List String} (same : ∀ name, name ∈ ids ↔ name ∈ managed)
    (name : String) : ids.contains name = managed.contains name := by
  rw [Bool.eq_iff_iff, List.contains_iff_mem, List.contains_iff_mem]
  exact same name

theorem overlaid_congr {ids : List String} (same : ∀ name, name ∈ ids ↔ name ∈ managed) :
    overlaid ids = overlaid managed := by
  funext cluster
  unfold overlaid
  rw [contains_congr same]

@[simp] theorem name_setManaged (cluster : Cluster) (managed : Bool) :
    (cluster.setManaged managed).name = cluster.name := by
  cases managed <;> rfl

@[simp] theorem name_overlaid (managed : List String) (cluster : Cluster) :
    (cluster.overlaid managed).name = cluster.name := by
  unfold overlaid
  split
  · rfl
  · exact name_setManaged _ _

theorem key_overlaid (managed : List String) (cluster : Cluster) :
    (cluster.overlaid managed).key = cluster.key := by
  unfold overlaid
  split
  · rfl
  · exact key_setManaged _ _

theorem managedMatches_overlaid (managed : List String) (cluster : Cluster) :
    (cluster.overlaid managed).managedMatches (managed.contains cluster.name) = true := by
  by_cases upToDate : cluster.managedMatches (managed.contains cluster.name) = true
  · rw [overlaid_of_matches upToDate]
    exact upToDate
  · rw [overlaid_of_stale (eq_false_of_ne_true upToDate)]
    exact managedMatches_setManaged _ _

theorem overlaid_overlaid (managed : List String) (cluster : Cluster) :
    (cluster.overlaid managed).overlaid managed = cluster.overlaid managed := by
  apply overlaid_of_matches
  rw [name_overlaid]
  exact managedMatches_overlaid managed cluster

theorem overlaid_unversioned (managed : List String) (cluster : Cluster) :
    cluster.unversioned.overlaid managed = (cluster.overlaid managed).unversioned := by
  by_cases upToDate : cluster.managedMatches (managed.contains cluster.name) = true
  · rw [overlaid_of_matches upToDate]
    exact overlaid_of_matches upToDate
  · have stale := eq_false_of_ne_true upToDate
    rw [overlaid_of_stale stale]
    have alsoStale : cluster.unversioned.managedMatches
        (managed.contains cluster.unversioned.name) = false := stale
    rw [overlaid_of_stale alsoStale, name_unversioned]
    cases managed.contains cluster.name <;> rfl

/-- A pair is put right the same way before and after a new specification. -/
theorem overlaid_withSpec (managed : List String) (cluster : Cluster) (desired : ClusterSpec) :
    (cluster.withSpec desired).overlaid managed =
      (cluster.overlaid managed).withSpec desired := by
  by_cases upToDate : cluster.managedMatches (managed.contains cluster.name) = true
  · rw [overlaid_of_matches upToDate]
    exact overlaid_of_matches upToDate
  · have stale := eq_false_of_ne_true upToDate
    rw [overlaid_of_stale stale]
    have alsoStale : (cluster.withSpec desired).managedMatches
        (managed.contains (cluster.withSpec desired).name) = false := stale
    exact overlaid_of_stale alsoStale

theorem sameAs_spec_overlaid (managed : List String) (cluster : Cluster)
    (desired : ClusterSpec) :
    desired.sameAs (cluster.overlaid managed).spec = desired.sameAs cluster.spec := by
  unfold overlaid
  split <;> rfl

def Alike (first second : List Cluster) : Prop :=
  (first.map unversioned).Perm (second.map unversioned)

theorem Alike.of_perm {first second : List Cluster} (rearranged : first.Perm second) :
    Alike first second := rearranged.map _

theorem Alike.trans {first second third : List Cluster} (one : Alike first second)
    (other : Alike second third) : Alike first third := List.Perm.trans one other

theorem Alike.map {first second : List Cluster} (alike : Alike first second)
    {change : Cluster → Cluster}
    (apart : ∀ cluster, change cluster.unversioned = (change cluster).unversioned) :
    Alike (first.map change) (second.map change) := by
  have moved (records : List Cluster) :
      (records.map change).map unversioned = (records.map unversioned).map change := by
    rw [List.map_map, List.map_map]
    apply List.map_congr_left
    intro cluster _member
    exact (apart cluster).symm
  unfold Alike
  rw [moved, moved]
  exact List.Perm.map change alike

def marked (key : String × String) (managed : Bool) (records : List Cluster) : List Cluster :=
  records.map fun old => if old.key = key then old.setManaged managed else old

theorem Alike.marked {first second : List Cluster} (alike : Alike first second)
    (key : String × String) (managed : Bool) :
    Alike (marked key managed first) (marked key managed second) := by
  refine alike.map fun cluster => ?_
  have sameKey : cluster.unversioned.key = cluster.key := rfl
  rw [sameKey]
  split
  · cases managed <;> rfl
  · rfl

theorem marked_of_not_mem {key : String × String} {managed : Bool} {records : List Cluster}
    (absent : key ∉ records.map Cluster.key) : marked key managed records = records := by
  refine (List.map_congr_left fun old member => ?_).trans (List.map_id' records)
  rw [if_neg]
  intro same
  exact absent (List.mem_map.mpr ⟨old, member, same⟩)

theorem marked_middle {before after : List Cluster}
    (distinct : ((before ++ cluster :: after).map Cluster.key).Nodup) (managed : Bool) :
    marked cluster.key managed (before ++ cluster :: after) =
      before ++ cluster.setManaged managed :: after := by
  rw [List.map_append, List.map_cons] at distinct
  obtain ⟨_distinctBefore, distinctAfter, apart⟩ := List.nodup_append.mp distinct
  have notBefore : cluster.key ∉ before.map Cluster.key := by
    intro member
    exact apart _ member _ List.mem_cons_self rfl
  have notAfter := (List.nodup_cons.mp distinctAfter).1
  have own : marked cluster.key managed (cluster :: after) =
      cluster.setManaged managed :: marked cluster.key managed after := by
    unfold marked
    rw [List.map_cons, if_pos rfl]
  have parted : marked cluster.key managed (before ++ cluster :: after) =
      marked cluster.key managed before ++ marked cluster.key managed (cluster :: after) :=
    List.map_append
  rw [parted, own, marked_of_not_mem notBefore, marked_of_not_mem notAfter]

end Cluster

open Cluster (Alike marked overlaid within)

variable {σ : Type} {handler : Handler σ} {records : σ → List Cluster} {state reached : σ}

/-- The handler keeps the records of all namespaces: each namespace as a pass needs it and
apart from the others, with managed pairs set where they are written. -/
structure Handler.Houses (handler : Handler σ) (records : σ → List Cluster) : Prop where
  keeps : ∀ space, handler.Keeps space fun state => within space (records state)
  still : ∀ effect state, effect.changesRecord = false →
    records (handler effect state).2 = records state
  elsewhere : ∀ space other (mutation : Mutation) state, mutation.isIn space → other ≠ space →
    within other (records (handler (.cluster (mutation.call space)) state).2) =
      within other (records state)
  listed : ∀ state listing,
    (handler (.cluster .listAllRecords) state).1 = Except.ok listing →
      listing.Perm (records state)
  marked : ∀ cluster managed state result,
    (handler (.cluster (.setManaged cluster managed)) state).1 = Except.ok result →
      Alike (records (handler (.cluster (.setManaged cluster managed)) state).2)
        (marked cluster.key managed (records state))

theorem Handler.Houses.undisturbed (houses : handler.Houses records) :
    handler.Undisturbed records :=
  fun effect state inquiry =>
    houses.still effect state (Effect.changesRecord_of_isInquiry inquiry)

theorem Handler.Houses.undisturbed_within (houses : handler.Houses records) (space : String) :
    handler.Undisturbed fun state => within space (records state) :=
  fun effect state inquiry => congrArg (within space) (houses.undisturbed effect state inquiry)

namespace Overlay

variable {managedIds managed : List String} {summary : Summary} {cluster : Cluster}
  {rest : List Cluster}

theorem repair_kept
    (upToDate : cluster.managedMatches (managedIds.contains cluster.name) = true) :
    repair managedIds summary (cluster :: rest) = repair managedIds summary.kept rest := by
  rw [repair]
  simp only [upToDate, if_true]

theorem repair_stale
    (stale : cluster.managedMatches (managedIds.contains cluster.name) = false) :
    repair managedIds summary (cluster :: rest) =
      .perform (.cluster (.setManaged cluster (managedIds.contains cluster.name)))
        fun answer =>
          match (answer : Except Failure Unit) with
          | .ok _ => .perform (.measure (.overlayUpdate (managedIds.contains cluster.name)))
              fun _ => repair managedIds summary.wrote rest
          | .error _ => repair managedIds summary.missed rest := by
  rw [repair]
  simp only [stale, Bool.false_eq_true, if_false]
  change Program.perform _ _ = Program.perform _ _
  congr 1
  funext answer
  cases answer <;> rfl

/-- A handler that fails no call puts the pairs of the records right that are still to be
looked at, and leaves those alone that have been. -/
theorem repair_alike (houses : handler.Houses records) {done : List Cluster}
    (alike : Alike (records state) (done ++ rest))
    (distinct : ((done ++ rest).map Cluster.key).Nodup)
    (noneFailed : ∀ event ∈ (repair managedIds summary rest).trace handler state,
      event.failed = false)
    {result : Except Halt Summary}
    (ended : (repair managedIds summary rest).run handler state = (result, reached)) :
    Alike (records reached) (done ++ rest.map (overlaid managedIds)) := by
  -- `done` is what has been looked at; each step moves one record over to it
  induction rest generalizing done summary state with
  | nil =>
      cases ended
      exact alike
  | cons cluster rest ih =>
      have onward (first : Cluster) : done ++ first :: rest = (done ++ [first]) ++ rest := by
        rw [List.append_assoc]
        rfl
      have looked : done ++ (cluster :: rest).map (overlaid managedIds) =
          (done ++ [cluster.overlaid managedIds]) ++ rest.map (overlaid managedIds) := by
        rw [List.append_assoc]
        rfl
      rw [looked]
      by_cases upToDate : cluster.managedMatches (managedIds.contains cluster.name) = true
      · rw [repair_kept upToDate] at noneFailed ended
        rw [Cluster.overlaid_of_matches upToDate]
        rw [onward] at alike distinct
        exact ih alike distinct noneFailed ended
      · have stale := eq_false_of_ne_true upToDate
        rw [repair_stale stale] at noneFailed ended
        rw [Cluster.overlaid_of_stale stale]
        have sameKeys : (done ++ cluster.setManaged (managedIds.contains cluster.name) ::
            rest).map Cluster.key = (done ++ cluster :: rest).map Cluster.key := by
          rw [List.map_append, List.map_append, List.map_cons, List.map_cons,
            Cluster.key_setManaged]
        cases answered : (handler (.cluster (.setManaged cluster
            (managedIds.contains cluster.name))) state).1 with
        | error failure =>
            have lost := noneFailed _ List.mem_cons_self
            rw [answered] at lost
            cases lost
        | ok written =>
            have changed := (houses.marked _ _ _ _ answered).trans (alike.marked _ _)
            rw [Cluster.marked_middle distinct, onward] at changed
            rw [← sameKeys, onward] at distinct
            have measured := houses.still
              (.measure (.overlayUpdate (managedIds.contains cluster.name)))
              (handler (.cluster (.setManaged cluster
                (managedIds.contains cluster.name))) state).2 rfl
            rw [← measured] at changed
            simp only [Program.run, Program.trace, answered] at noneFailed ended
            exact ih changed distinct (fun event member => noneFailed event
              (List.mem_cons_of_mem _ (List.mem_cons_of_mem _ member))) ended

/-- How a pass goes, by the answers to its two questions: what it performs, and how it ends. -/
inductive Goes (handler : Handler σ) (state : σ) :
    List Event → Except Halt Summary × σ → Prop where
  | unlisted {failure : Failure} {asked : σ}
      (refused : handler (.cluster .listAllRecords) state = (Except.error failure, asked)) :
      Goes handler state [⟨.cluster .listAllRecords, Except.error failure⟩]
        (.ok .nothing, asked)
  | empty {asked : σ}
      (listed : handler (.cluster .listAllRecords) state = (Except.ok [], asked)) :
      Goes handler state [⟨.cluster .listAllRecords, Except.ok []⟩] (.ok .nothing, asked)
  | unread {listing : List Cluster} {asked read : σ} {failure : Failure}
      (listed : handler (.cluster .listAllRecords) state = (Except.ok listing, asked))
      (refused : handler (.cluster .listManagedIds) asked = (Except.error failure, read)) :
      Goes handler state [⟨.cluster .listAllRecords, Except.ok listing⟩,
          ⟨.cluster .listManagedIds, Except.error failure⟩] (.ok .nothing, read)
  | repairs {listing : List Cluster} {managedIds : List String} {asked read : σ}
      (listed : handler (.cluster .listAllRecords) state = (Except.ok listing, asked))
      (answered : handler (.cluster .listManagedIds) asked = (Except.ok managedIds, read)) :
      Goes handler state
        (⟨.cluster .listAllRecords, Except.ok listing⟩ ::
          ⟨.cluster .listManagedIds, Except.ok managedIds⟩ ::
            (repair managedIds .nothing listing).trace handler read)
        ((repair managedIds .nothing listing).run handler read)

theorem pass_eq : pass =
    .perform (.cluster .listAllRecords) fun answer =>
      match (answer : Except Failure (List Cluster)) with
      | .error _ => .done .nothing
      | .ok listing =>
          if listing.isEmpty then .done .nothing
          else .perform (.cluster .listManagedIds) fun answer =>
            match (answer : Except Failure (List String)) with
            | .error _ => .done .nothing
            | .ok managedIds => repair managedIds .nothing listing := rfl

theorem pass_goes (handler : Handler σ) (state : σ) :
    Goes handler state (pass.trace handler state) (pass.run handler state) := by
  rw [pass_eq]
  simp only [Program.run, Program.trace]
  cases listed : handler (.cluster .listAllRecords) state with
  | mk answer asked =>
      cases answer with
      | error failure => exact .unlisted listed
      | ok listing =>
          cases listing with
          | nil => exact .empty listed
          | cons record rest =>
              simp only [List.isEmpty_cons, Bool.false_eq_true, if_false, Program.run,
                Program.trace]
              cases answered : handler (.cluster .listManagedIds) asked with
              | mk answer read =>
                  cases answer with
                  | error failure => exact .unread listed answered
                  | ok managedIds => exact .repairs listed answered

def Reads (managed : List String) (events : List Event) : Prop :=
  ∀ ids : List String, ⟨.cluster .listManagedIds, Except.ok ids⟩ ∈ events →
    ∀ name, name ∈ ids ↔ name ∈ managed

/-- A pass in which no call fails puts the pair of every record right, and that is all it
does. -/
theorem pass_alike (houses : handler.Houses records)
    (distinct : ((records state).map Cluster.key).Nodup)
    (noneFailed : ∀ event ∈ pass.trace handler state, event.failed = false)
    (reads : Reads managed (pass.trace handler state))
    {result : Except Halt Summary} (ended : pass.run handler state = (result, reached)) :
    Alike (records reached) ((records state).map (overlaid managed)) := by
  have goes := pass_goes handler state
  generalize pass.trace handler state = events at goes noneFailed reads
  generalize pass.run handler state = outcome at goes ended
  have sameListed := houses.still (.cluster .listAllRecords) state rfl
  cases goes with
  | unlisted => cases noneFailed _ List.mem_cons_self
  | unread => cases noneFailed _ (List.mem_cons_of_mem _ List.mem_cons_self)
  | empty listed =>
      cases ended
      have rearranged := houses.listed state [] (congrArg Prod.fst listed)
      rw [listed] at sameListed
      rw [sameListed, List.nil_perm.mp rearranged]
      exact List.Perm.nil
  | @repairs listing managedIds asked read listed answered =>
      have rearranged := houses.listed state listing (congrArg Prod.fst listed)
      have sameRead := houses.still (.cluster .listManagedIds) asked rfl
      have sameIds := reads managedIds (List.mem_cons_of_mem _ List.mem_cons_self)
      rw [listed] at sameListed
      rw [answered] at sameRead
      have alike : Alike (records read) ([] ++ listing) := by
        rw [sameRead, sameListed]
        exact .of_perm rearranged.symm
      have distinctListing := (rearranged.map Cluster.key).symm.nodup distinct
      have repaired := repair_alike houses alike distinctListing (fun event member =>
        noneFailed event (List.mem_cons_of_mem _ (List.mem_cons_of_mem _ member))) ended
      rw [Cluster.overlaid_congr sameIds] at repaired
      exact repaired.trans (.of_perm (rearranged.map _))

theorem trace_repair_of_matches
    (upToDate : ∀ record ∈ rest,
      record.managedMatches (managedIds.contains record.name) = true) :
    (repair managedIds summary rest).trace handler state = [] := by
  induction rest generalizing summary with
  | nil => rfl
  | cons cluster rest ih =>
      rw [repair_kept (upToDate cluster List.mem_cons_self)]
      exact ih fun record member => upToDate record (List.mem_cons_of_mem _ member)

/-- Where no pair is stale, a pass changes nothing. -/
theorem unchanging_trace_pass (houses : handler.Houses records)
    (upToDate : ∀ record ∈ records state,
      record.managedMatches (managed.contains record.name) = true)
    (reads : Reads managed (pass.trace handler state)) {event : Event}
    (performed : event ∈ pass.trace handler state) : event.effect.changesRecord = false := by
  have goes := pass_goes handler state
  generalize pass.trace handler state = events at goes reads performed
  generalize pass.run handler state = outcome at goes
  cases goes with
  | unlisted | empty =>
      rw [List.mem_singleton.mp performed]
      rfl
  | unread =>
      rcases List.mem_cons.mp performed with rfl | later
      · rfl
      · rw [List.mem_singleton.mp later]
        rfl
  | @repairs listing managedIds asked read listed answered =>
      have rearranged := houses.listed state listing (congrArg Prod.fst listed)
      have sameIds := reads managedIds (List.mem_cons_of_mem _ List.mem_cons_self)
      have noneStale : ∀ record ∈ listing,
          record.managedMatches (managedIds.contains record.name) = true := by
        intro record member
        rw [Cluster.contains_congr sameIds]
        exact upToDate record (rearranged.mem_iff.mp member)
      rw [trace_repair_of_matches noneStale] at performed
      rcases List.mem_cons.mp performed with rfl | later
      · rfl
      · rw [List.mem_singleton.mp later]
        rfl

end Overlay

end ClusterDiscovery

/-
Passes over documents.

A server keeps a document for each record and merges every patch into the document of its
record. A pass that reads both lists asks for the managed pairs that are stale, in the order of
the list and each once. Where a patch is taken the record that is read afterwards has its pair
right and is otherwise the one that was there; every other document stays as it was.
-/

import ClusterDiscovery.Proofs.Cluster.Document
import ClusterDiscovery.Proofs.Overlay.Tally
import ClusterDiscovery.Proofs.World.Keeper

namespace ClusterDiscovery

open Json (Value)

def Cluster.keyIn? (room : Nat) (document : Value) : Option (String × String) :=
  (Cluster.readWithin room document).map Cluster.key

/-- What a server makes of a document when it takes a patch of a managed pair. -/
def Cluster.patch (room : Nat) (cluster : Cluster) (managed : Bool) (version : String)
    (document : Value) : Value :=
  if Cluster.keyIn? room document = some cluster.key then
    (document.merge (Hub.managedPatch cluster managed)).merge (Cluster.stamp version)
  else document

variable {σ : Type} {handler : Handler σ} {room : Nat} {documents : σ → List Value}
  {state reached : σ}

/-- The handler keeps documents. Its list shows what is read of them, in some order; a patch
of a managed pair is merged into the document of its record, which gets a version, or changes
nothing; no other effect but a write of a record changes a document. -/
structure Handler.Merges (handler : Handler σ) (room : Nat) (documents : σ → List Value) :
    Prop where
  listed : ∀ state listing,
    (handler (.cluster .listAllRecords) state).1 = Except.ok listing →
      (listing.map some).Perm ((documents state).map (Cluster.readWithin room))
  still : ∀ effect state, effect.changesRecord = false →
    documents (handler effect state).2 = documents state
  refused : ∀ cluster managed state failure,
    (handler (.cluster (.setManaged cluster managed)) state).1 = Except.error failure →
      documents (handler (.cluster (.setManaged cluster managed)) state).2 = documents state
  taken : ∀ cluster managed state result,
    (handler (.cluster (.setManaged cluster managed)) state).1 = Except.ok result →
      ∃ version, documents (handler (.cluster (.setManaged cluster managed)) state).2 =
        (documents state).map (cluster.patch room managed version)

namespace Cluster

variable {document : Value} {cluster old : Cluster}

theorem patch_of_ne (other : keyIn? room document ≠ some cluster.key) (managed : Bool)
    (version : String) : cluster.patch room managed version document = document := if_neg other

/-- A patched document is read as the record that was there with its pair set. -/
theorem readWithin_patch (tidy : Tidy document)
    (reads : Cluster.readWithin room document = some old) (sameKey : old.key = cluster.key)
    (managed : Bool) (version : String) :
    Tidy (cluster.patch room managed version document) ∧
      Cluster.readWithin room (cluster.patch room managed version document) =
        some ((old.labelled.setManaged managed).withVersion (some version)) := by
  have own : keyIn? room document = some cluster.key := by
    unfold keyIn?
    rw [reads, ← sameKey]
    rfl
  obtain ⟨tidyMerged, readsMerged⟩ := readWithin_merge_managedPatch tidy reads cluster managed
  unfold patch
  rw [if_pos own]
  exact readWithin_merge_stamp tidyMerged readsMerged version

/-- A document is tidy if it can be read as a record. -/
def TidyIfRead (room : Nat) (document : Value) : Prop :=
  ∀ record, Cluster.readWithin room document = some record → Tidy document

theorem TidyIfRead.patch (tidy : TidyIfRead room document) (cluster : Cluster) (managed : Bool)
    (version : String) : TidyIfRead room (cluster.patch room managed version document) := by
  by_cases own : keyIn? room document = some cluster.key
  · obtain ⟨old, reads, sameKey⟩ := Option.map_eq_some_iff.mp own
    intro _record _read
    exact (readWithin_patch (tidy old reads) reads sameKey managed version).1
  · rw [patch_of_ne own]
    exact tidy

end Cluster

namespace Overlay

open Cluster (keyIn? patch TidyIfRead)

variable {managedIds : List String} {listing : List Cluster}

/-- What becomes of a document, by the managed pairs that were asked for. -/
inductive Repaired (room : Nat) (managedIds : List String) (marks : List Mark) :
    Value → Value → Prop where
  | written {before after : Value} {old new : Cluster} {mark : Mark} (asked : mark ∈ marks)
      (succeeded : mark.succeeded = true) (sameKey : mark.cluster.key = old.key)
      (readBefore : Cluster.readWithin room before = some old)
      (readAfter : Cluster.readWithin room after = some new)
      (isRight : new.managedMatches (managedIds.contains old.name) = true)
      (sameElse : Cluster.SameButManaged old new) : Repaired room managedIds marks before after
  | kept {document : Value} (unwritten : ∀ mark ∈ marks, mark.succeeded = true →
      keyIn? room document ≠ some mark.cluster.key) :
      Repaired room managedIds marks document document

theorem Repaired.later {marks : List Mark} {before after : Value}
    (repaired : Repaired room managedIds marks before after) {mark : Mark}
    (unwritten : mark.succeeded = true → keyIn? room before ≠ some mark.cluster.key) :
    Repaired room managedIds (mark :: marks) before after := by
  cases repaired with
  | written asked succeeded sameKey readBefore readAfter isRight sameElse =>
      exact .written (List.mem_cons_of_mem _ asked) succeeded sameKey readBefore readAfter isRight
        sameElse
  | kept others =>
      refine .kept ?_
      intro other member
      rcases List.mem_cons.mp member with rfl | later
      · exact unwritten
      · exact others other later

/-- The first of the pairs that are asked for is taken, and no later one is of its record. -/
theorem Repaired.first {marks : List Mark} {cluster : Cluster} {version : String}
    {before after : Value} (tidy : TidyIfRead room before)
    (repaired : Repaired room managedIds marks
      (cluster.patch room (managedIds.contains cluster.name) version before) after)
    (others : ∀ mark ∈ marks, mark.cluster.key ≠ cluster.key) :
    Repaired room managedIds (⟨cluster, managedIds.contains cluster.name, true⟩ :: marks)
      before after := by
  by_cases own : keyIn? room before = some cluster.key
  · obtain ⟨old, reads, sameKey⟩ := Option.map_eq_some_iff.mp own
    obtain ⟨_tidyAfter, readsAfter⟩ := Cluster.readWithin_patch (tidy old reads) reads sameKey
      (managedIds.contains cluster.name) version
    have sameName : old.name = cluster.name := congrArg Prod.snd sameKey
    cases repaired with
    | @written _ seen _ mark asked _succeeded markKey readSeen =>
        have seenKey : seen.key = cluster.key := by
          rw [readsAfter] at readSeen
          cases readSeen
          exact (old.labelled.key_setManaged _).trans sameKey
        exact absurd (markKey.trans seenKey) (others mark asked)
    | kept _unwritten =>
        refine .written List.mem_cons_self rfl sameKey.symm reads readsAfter ?_
          (old.sameButManaged_labelled _ _)
        rw [sameName]
        exact Cluster.managedMatches_setManaged old.labelled _
  · rw [Cluster.patch_of_ne own] at repaired
    exact repaired.later fun _succeeded => own

theorem repaired_of_patched {marks : List Mark} {cluster : Cluster} {version : String}
    {before after : List Value} (tidy : ∀ document ∈ before, TidyIfRead room document)
    (repaired : List.Forall₂ (Repaired room managedIds marks)
      (before.map (cluster.patch room (managedIds.contains cluster.name) version)) after)
    (others : ∀ mark ∈ marks, mark.cluster.key ≠ cluster.key) :
    List.Forall₂ (Repaired room managedIds
      (⟨cluster, managedIds.contains cluster.name, true⟩ :: marks)) before after := by
  rw [List.forall₂_map_left_iff] at repaired
  refine ((List.forall₂_and_left _ _).mpr ⟨tidy, repaired⟩).imp ?_
  rintro old new ⟨tidyOld, repairedOld⟩
  exact repairedOld.first tidyOld others

private theorem documents_wrote (merges : handler.Merges room documents) {cluster : Cluster}
    {managed : Bool} {next : σ} (measurement : Measurement)
    (answered : handler (.cluster (.setManaged cluster managed)) state = (Except.ok (), next)) :
    ∃ version, documents (handler (.measure measurement) next).2 =
      (documents state).map (cluster.patch room managed version) := by
  obtain ⟨version, changed⟩ := merges.taken _ _ state () (congrArg Prod.fst answered)
  rw [answered] at changed
  exact ⟨version, (merges.still (.measure measurement) next rfl).trans changed⟩

private theorem documents_missed (merges : handler.Merges room documents) {cluster : Cluster}
    {managed : Bool} {next : σ} {failure : Failure}
    (answered : handler (.cluster (.setManaged cluster managed)) state =
      (Except.error failure, next)) : documents next = documents state := by
  have unchanged := merges.refused _ _ state failure (congrArg Prod.fst answered)
  rw [answered] at unchanged
  exact unchanged

/-- Nothing is asked for under a key that no listed record has. -/
private theorem keys_of_marks {cluster : Cluster} {before after : Summary} {events : List Event}
    (tallied : Tallied managedIds listing before after events)
    (absent : cluster.key ∉ listing.map Cluster.key) :
    ∀ mark ∈ marks events, mark.cluster.key ≠ cluster.key := by
  intro mark asked same
  rw [← same] at absent
  exact absent (List.mem_map_of_mem (tallied.of_mem_marks asked).1)

/-- A repair of a list of records writes the documents of those whose patches are taken, and
no other document. -/
theorem repair_repairs (merges : handler.Merges room documents) {before : Summary}
    (tidy : ∀ document ∈ documents state, TidyIfRead room document)
    (distinct : (listing.map Cluster.key).Nodup) :
    List.Forall₂
      (Repaired room managedIds (marks ((repair managedIds before listing).trace handler state)))
      (documents state) (documents ((repair managedIds before listing).run handler state).2) := by
  induction listing generalizing before state with
  | nil =>
      refine List.forall₂_same.mpr fun document _member => .kept ?_
      intro mark absent
      cases absent
  | cons cluster rest ih =>
      obtain ⟨absent, distinctRest⟩ := List.nodup_cons.mp distinct
      cases stale : isStale managedIds cluster with
      | false =>
          rw [repair_kept (isStale_eq_false_iff.mp stale)]
          exact ih tidy distinctRest
      | true =>
          cases answered : handler (.cluster (.setManaged cluster
            (managedIds.contains cluster.name))) state with
          | mk answer next =>
              cases answer with
              | error failure =>
                  obtain ⟨sameRun, sameTrace⟩ := repair_missed stale answered
                  have unchanged := documents_missed merges answered
                  rw [sameRun, sameTrace, ← unchanged]
                  rw [← unchanged] at tidy
                  refine (ih tidy distinctRest).imp fun _ _ repaired => repaired.later ?_
                  intro impossible
                  cases impossible
              | ok done =>
                  obtain ⟨sameRun, sameTrace⟩ := repair_wrote stale answered
                  obtain ⟨version, changed⟩ := documents_wrote merges
                    (.overlayUpdate (managedIds.contains cluster.name)) answered
                  rw [sameRun, sameTrace]
                  generalize (handler (.measure (.overlayUpdate
                    (managedIds.contains cluster.name))) next).2 = measured at changed ⊢
                  have tidyAfter : ∀ document ∈ documents measured,
                      TidyIfRead room document := by
                    rw [changed]
                    intro document member
                    obtain ⟨old, present, rfl⟩ := List.mem_map.mp member
                    exact (tidy old present).patch _ _ _
                  obtain ⟨_after, _reached, _ended, tallied⟩ :=
                    repair_tallied handler managedIds before.wrote rest measured
                  have repaired := @ih measured before.wrote tidyAfter distinctRest
                  rw [changed] at repaired
                  have others := keys_of_marks tallied absent
                  exact repaired_of_patched tidy repaired others

/-- What a pass has done, by what it was answered. -/
inductive Completed (room : Nat) (before after : List Value) : List Event → Summary → Prop where
  | unlisted {failure : Failure} (same : after = before) :
      Completed room before after [⟨.cluster .listAllRecords, Except.error failure⟩] .nothing
  | empty (same : after = before) :
      Completed room before after [⟨.cluster .listAllRecords, Except.ok []⟩] .nothing
  | unread {listing : List Cluster} {failure : Failure} (nonempty : listing ≠ [])
      (same : after = before) :
      Completed room before after
        [⟨.cluster .listAllRecords, Except.ok listing⟩,
          ⟨.cluster .listManagedIds, Except.error failure⟩] .nothing
  | repaired {listing : List Cluster} {managedIds : List String} {events : List Event}
      {summary : Summary} (nonempty : listing ≠ [])
      (shown : (listing.map some).Perm (before.map (Cluster.readWithin room)))
      (tallied : Tallied managedIds listing .nothing summary events)
      (repairs : List.Forall₂ (Repaired room managedIds (marks events)) before after) :
      Completed room before after
        (⟨.cluster .listAllRecords, Except.ok listing⟩ ::
          ⟨.cluster .listManagedIds, Except.ok managedIds⟩ :: events) summary

theorem goes_of_empty {asked : σ}
    (listed : handler (.cluster .listAllRecords) state = (Except.ok [], asked)) :
    pass.trace handler state = [⟨.cluster .listAllRecords, Except.ok []⟩] ∧
      pass.run handler state = (.ok .nothing, asked) := by
  rw [pass_eq]
  simp only [Program.run, Program.trace, listed]
  exact ⟨rfl, rfl⟩

theorem nodup_keys_of_shown {documents : List Value}
    (distinct : (documents.filterMap (keyIn? room)).Nodup)
    (shown : (listing.map some).Perm (documents.map (Cluster.readWithin room))) :
    (listing.map Cluster.key).Nodup := by
  have sameKeys := shown.filterMap (Option.map Cluster.key)
  rw [List.filterMap_map, List.filterMap_map] at sameKeys
  have renamed : Option.map Cluster.key ∘ some = some ∘ Cluster.key := rfl
  rw [renamed, List.filterMap_eq_map] at sameKeys
  exact sameKeys.symm.nodup distinct

/-- Of the records that a pass lists it asks for the pairs that are stale and for no others,
whichever writes fail. The document of a record whose write succeeded is read afterwards as
that record with its pair right; every other document is the one that was there. A pass that
cannot read a list, or that lists nothing, changes no document. -/
theorem pass_repairs_exactly (merges : handler.Merges room documents)
    (tidy : ∀ document ∈ documents state, TidyIfRead room document)
    (distinct : ((documents state).filterMap (keyIn? room)).Nodup) :
    ∃ summary reached, pass.run handler state = (.ok summary, reached) ∧
      Completed room (documents state) (documents reached) (pass.trace handler state) summary := by
  have sameListed := merges.still (.cluster .listAllRecords) state rfl
  by_cases none : (handler (.cluster .listAllRecords) state).1 = Except.ok []
  · obtain ⟨sameTrace, sameRun⟩ := goes_of_empty (Prod.ext none rfl)
    rw [sameTrace, sameRun]
    exact ⟨_, _, rfl, .empty sameListed⟩
  · have goes := pass_goes handler state
    generalize pass.trace handler state = events at goes ⊢
    generalize pass.run handler state = outcome at goes ⊢
    cases goes with
    | empty listed => exact absurd (congrArg Prod.fst listed) none
    | unlisted refused =>
        rw [refused] at sameListed
        exact ⟨_, _, rfl, .unlisted sameListed⟩
    | @unread listing asked read failure listed refused =>
        have sameRead := merges.still (.cluster .listManagedIds) asked rfl
        rw [listed] at none sameListed
        rw [refused] at sameRead
        refine ⟨_, _, rfl, .unread ?_ (sameRead.trans sameListed)⟩
        rintro rfl
        exact none rfl
    | @repairs listing managedIds asked read listed answered =>
        have shown := merges.listed state listing (congrArg Prod.fst listed)
        have sameRead := merges.still (.cluster .listManagedIds) asked rfl
        rw [listed] at none sameListed
        rw [answered] at sameRead
        have same : documents read = documents state := sameRead.trans sameListed
        obtain ⟨summary, reached, ended, tallied⟩ :=
          repair_tallied handler managedIds .nothing listing read
        have repairs := @repair_repairs _ _ _ _ read managedIds listing merges .nothing
          (same ▸ tidy) (nodup_keys_of_shown distinct shown)
        rw [same, ended] at repairs
        refine ⟨summary, reached, ended, .repaired ?_ shown tallied repairs⟩
        rintro rfl
        exact none rfl

end Overlay

structure Shelf where
  world : World
  documents : List Value

namespace Shelf

def list (room : Nat) (shelf : Shelf) : Except Failure (List Cluster) :=
  match shelf.documents.mapM (Cluster.readWithin room) with
  | some listing => .ok listing
  | none => .error (.hub .document)

def setManaged (room : Nat) (cluster : Cluster) (managed : Bool) (shelf : Shelf) :
    Except Failure Unit × Shelf :=
  match shelf.world.callCluster (.setManaged cluster managed) with
  | (.ok _, world) => (.ok (), ⟨world, shelf.documents.map (cluster.patch room managed "2")⟩)
  | (.error failure, world) => (.error failure, ⟨world, shelf.documents⟩)

def handle (room : Nat) : Handler Shelf
  | .cluster .listAllRecords, shelf => (shelf.list room, shelf)
  | .cluster (.setManaged cluster managed), shelf => shelf.setManaged room cluster managed
  | effect, shelf =>
      ((World.handle effect shelf.world).1, ⟨(World.handle effect shelf.world).2, shelf.documents⟩)

theorem merges (room : Nat) : (handle room).Merges room Shelf.documents where
  listed := by
    intro shelf (listing : List Cluster) answered
    change shelf.list room = _ at answered
    unfold list at answered
    cases read : shelf.documents.mapM (Cluster.readWithin room) with
    | none =>
        rw [read] at answered
        cases answered
    | some records =>
        rw [read] at answered
        cases answered
        refine List.Perm.of_eq (Eq.symm ?_)
        rw [← List.forall₂_eq_eq_eq, List.forall₂_map_left_iff, List.forall₂_map_right_iff]
        exact Json.mapM_eq_some_iff.mp read
  still := by
    intro effect shelf unchanging
    cases effect with
    | cluster call => cases call <;> first | rfl | cases unchanging
    | _ => rfl
  refused := by
    intro cluster managed shelf failure answered
    change (shelf.setManaged room cluster managed).1 = _ at answered
    change (shelf.setManaged room cluster managed).2.documents = _
    unfold setManaged at answered ⊢
    split at answered
    · cases answered
    · rfl
  taken := by
    intro cluster managed shelf result answered
    change (shelf.setManaged room cluster managed).1 = _ at answered
    change ∃ version, (shelf.setManaged room cluster managed).2.documents = _
    unfold setManaged at answered ⊢
    split at answered
    · exact ⟨"2", rfl⟩
    · cases answered

end Shelf

namespace Sample

def document (id : String) (labels : List (String × Value)) (managed : Bool) : Value :=
  .record [
    ("metadata", .record [
      ("name", .string id), ("namespace", .string "ns"), ("labels", .record labels)]),
    ("spec", .record [("name", .string id), ("isManagedCluster", .bool managed)])]

theorem tidy_document (id : String) {labels : List (String × Value)} (managed : Bool)
    (distinct : (labels.map Prod.fst).Nodup) : Cluster.Tidy (document id labels managed) :=
  Cluster.tidy_of_parts
    (Value.isTable_record (show ["metadata", "spec"].Nodup by decide)) rfl
    (Value.isTable_record (show ["name", "namespace", "labels"].Nodup by decide)) rfl
    (Value.isTable_record (show ["name", "isManagedCluster"].Nodup by decide))
    (by rintro _ ⟨⟩; exact Or.inr (Value.isTable_record distinct))

def halfway : Shelf where
  world := { world [] with
    store := { Store.empty with managedIds := ["a"] }
    faults := [⟨.setManaged, some "b", .hub .service, 0, 1⟩] }
  documents := [
    document "a" [("env", .string "prod")] true,
    document "b" [(Cluster.managedLabel, .string "true")] false,
    document "c" [] false]

end Sample

theorem Overlay.pass_repairs_exactly_sample :
    ∃ reached, Overlay.pass.run (Shelf.handle 125) Sample.halfway = (.ok ⟨3, 1, 1⟩, reached) ∧
      Completed 125 Sample.halfway.documents reached.documents
        (Overlay.pass.trace (Shelf.handle 125) Sample.halfway) ⟨3, 1, 1⟩ := by
  have tidy : ∀ document ∈ Sample.halfway.documents, Cluster.TidyIfRead 125 document := by
    intro document member _record _read
    simp only [Sample.halfway, List.mem_cons, List.not_mem_nil, or_false] at member
    rcases member with rfl | rfl | rfl <;> exact Sample.tidy_document _ _ (by decide)
  have distinct : (Sample.halfway.documents.filterMap (Cluster.keyIn? 125)).Nodup := by
    decide +kernel
  obtain ⟨summary, reached, ended, completed⟩ :=
    pass_repairs_exactly (Shelf.merges 125) tidy distinct
  have counted : (Overlay.pass.run (Shelf.handle 125) Sample.halfway).1 = .ok ⟨3, 1, 1⟩ := rfl
  rw [ended] at counted
  cases counted
  exact ⟨reached, ended, completed⟩

end ClusterDiscovery

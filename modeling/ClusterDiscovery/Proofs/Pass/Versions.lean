/-
Plans and the versions of records.

A plan looks at names and specifications, so it is the same for records that differ in their
versions only, up to the versions in its updates. An update carries the version of the record
it was made from. Mutations of a plan do not touch the records of one another's updates, so
each update still carries the version of its record when its turn has come.
-/

import ClusterDiscovery.Proofs.Pass.Convergence
import ClusterDiscovery.Proofs.Registry.Basic

namespace ClusterDiscovery

open Cluster (Distinct named? unversioned)

namespace Mutation

def unversioned : Mutation → Mutation
  | .create cluster => .create cluster.unversioned
  | .update cluster => .update cluster.unversioned
  | .delete name => .delete name

theorem name_unversioned (mutation : Mutation) : mutation.unversioned.name = mutation.name := by
  cases mutation <;> rfl

theorem action_unversioned (mutation : Mutation) :
    mutation.unversioned.action = mutation.action := by
  cases mutation <;> rfl

theorem named?_unversioned (records : List Cluster) (target : String) :
    named? (records.map Cluster.unversioned) target =
      (named? records target).map Cluster.unversioned := by
  unfold named?
  rw [List.find?_map]
  rfl

/-- What a mutation makes of records depends on no version, versions aside. -/
theorem unversioned_revise (mutation : Mutation) (version : Option String)
    (records : List Cluster) :
    (mutation.revise version records).map Cluster.unversioned =
      mutation.unversioned.revise none (records.map Cluster.unversioned) := by
  cases mutation with
  | create cluster =>
      change _ = (create cluster.unversioned).revise none _
      rw [revise_create, revise_create, named?_unversioned, Option.isSome_map,
        Cluster.name_unversioned]
      split
      · rfl
      · rw [List.map_append]
        rfl
  | update cluster =>
      change _ = (update cluster.unversioned).revise none _
      rw [revise_update, revise_update, List.map_map, List.map_map]
      apply List.map_congr_left
      intro old _member
      change (if old.name = cluster.name then cluster.withVersion version else old).unversioned =
        if old.name = cluster.name then cluster.unversioned else old.unversioned
      split <;> rfl
  | delete name =>
      change _ = (delete name).revise none _
      rw [revise_delete, revise_delete, List.filter_map]
      rfl

def Fits (records : List Cluster) : Mutation → Prop
  | .update cluster => ∃ stored, named? records cluster.name = some stored ∧
      stored.version? = cluster.version?
  | _ => True

/-- The first of two mutations leaves the record alone that the second updates. -/
def Spares (first second : Mutation) : Prop :=
  ∀ cluster, second = .update cluster →
    (∃ created, first = .create created) ∨ cluster.name ≠ first.name

theorem Fits.revise {records : List Cluster} {first second : Mutation}
    (fits : second.Fits records) (spares : first.Spares second) (version : Option String) :
    second.Fits (first.revise version records) := by
  cases second with
  | update cluster =>
      obtain ⟨stored, found, sameVersion⟩ := fits
      refine ⟨stored, ?_, sameVersion⟩
      by_cases same : cluster.name = first.name
      · rcases spares cluster rfl with ⟨created, rfl⟩ | different
        · have taken : (named? records created.name).isSome = true := by
            rw [show created.name = cluster.name from same.symm, found]
            rfl
          rw [revise_create, if_pos taken]
          exact found
        · exact absurd same different
      · rw [named?_revise_of_ne same]
        exact found
  | _ => exact trivial

end Mutation

namespace Plan

/-- Mutations that can all be made of records, one after the other, if no call fails. -/
structure Ready (space : String) (records : List Cluster) (mutations : List Mutation) :
    Prop where
  inSpace : ∀ mutation ∈ mutations, mutation.isIn space
  fits : ∀ mutation ∈ mutations, mutation.Fits records
  apart : mutations.Pairwise Mutation.Spares

variable {space : String} {config : Config} {canonical : Keyed ClusterSpec}
  {existing records : List Cluster}

theorem Ready.tail {mutation : Mutation} {rest : List Mutation}
    (ready : Ready space records (mutation :: rest)) (version : Option String) :
    Ready space (mutation.revise version records) rest where
  inSpace := fun other member => ready.inSpace other (List.mem_cons_of_mem _ member)
  fits := fun other member =>
    (ready.fits other (List.mem_cons_of_mem _ member)).revise
      (List.rel_of_pairwise_cons ready.apart member) version
  apart := ready.apart.of_cons

private theorem pairwise_spares {mutations : List Mutation}
    (noUpdate : ∀ mutation ∈ mutations, ∀ cluster, mutation ≠ .update cluster) :
    mutations.Pairwise Mutation.Spares := by
  refine List.pairwise_iff_forall_sublist.mpr fun {first second} inOrder cluster isUpdate => ?_
  have member : second ∈ mutations :=
    inOrder.subset (List.mem_cons_of_mem _ List.mem_cons_self)
  exact absurd isUpdate (noUpdate second member cluster)

theorem ready_deletion (space : String) (existing : List Cluster) :
    Ready space existing (deletion existing).mutations := by
  have isDelete {mutation : Mutation} (member : mutation ∈ (deletion existing).mutations) :
      ∃ name, mutation = .delete name := by
    obtain ⟨name, _listed, same⟩ := List.mem_map.mp member
    exact ⟨name, same.symm⟩
  constructor
  · intro mutation member
    obtain ⟨name, rfl⟩ := isDelete member
    exact trivial
  · intro mutation member
    obtain ⟨name, rfl⟩ := isDelete member
    exact trivial
  · refine pairwise_spares fun mutation member cluster isUpdate => ?_
    obtain ⟨name, rfl⟩ := isDelete member
    cases isUpdate

private theorem pairwise_mutations (distinct : Distinct existing) :
    (changes config canonical existing).mutations.Pairwise Mutation.Spares := by
  have updatesApart : (changes config canonical existing).update.Pairwise
      fun first second => first.name ≠ second.name := by
    rw [changes_eq config distinct]
    exact pairwise_revisions (List.pairwise_map.mp distinct)
  unfold mutations
  refine List.pairwise_append.mpr ⟨List.pairwise_append.mpr ⟨?_, ?_, ?_⟩, ?_, ?_⟩
  · refine pairwise_spares fun mutation member cluster isUpdate => ?_
    obtain ⟨created, _planned, rfl⟩ := List.mem_map.mp member
    cases isUpdate
  · refine List.pairwise_map.mpr (updatesApart.imp ?_)
    intro first second different cluster same
    cases same
    exact Or.inr different.symm
  · intro first isCreate second _isUpdate cluster _same
    obtain ⟨created, _planned, rfl⟩ := List.mem_map.mp isCreate
    exact Or.inl ⟨created, rfl⟩
  · refine pairwise_spares fun mutation member cluster isUpdate => ?_
    obtain ⟨name, _planned, rfl⟩ := List.mem_map.mp member
    cases isUpdate
  · intro first _earlier second isDelete cluster same
    obtain ⟨name, _planned, rfl⟩ := List.mem_map.mp isDelete
    cases same

theorem ready_changes (distinct : Distinct existing)
    (inSpace : config.metadata.space = some space)
    (located : ∀ record ∈ existing, record.space = space) :
    Ready space existing (changes config canonical existing).mutations where
  inSpace := fun _ member => isIn_of_mem_mutations distinct inSpace located member
  fits := by
    intro mutation member
    rcases (mem_mutations distinct).mp member with
      ⟨spec, _isMissing, rfl⟩ | ⟨current, isPresent, revised, found, rfl⟩ |
        ⟨current, _isPresent, _unwanted, rfl⟩
    · exact trivial
    · obtain ⟨desired, _isMember, _differs, rfl⟩ := revision?_eq_some_iff.mp found
      exact ⟨current, Cluster.named?_of_mem distinct isPresent, rfl⟩
    · exact trivial
  apart := pairwise_mutations distinct

theorem revision?_unversioned (current : Cluster) :
    revision? canonical current.unversioned = (revision? canonical current).map unversioned := by
  unfold revision?
  rw [Cluster.name_unversioned]
  cases canonical.get? current.name with
  | none => rfl
  | some desired =>
      simp only
      change (if desired.sameAs current.spec then _ else _) = _
      split <;> rfl

theorem distinct_unversioned (distinct : Distinct existing) :
    Distinct (existing.map unversioned) := by
  unfold Distinct
  rw [List.map_map]
  exact distinct

/-- The plan for records without their versions is the plan for the records, but for the
versions that its updates carry. -/
theorem changes_unversioned (config : Config) (canonical : Keyed ClusterSpec)
    (distinct : Distinct existing) :
    changes config canonical (existing.map unversioned) =
      { changes config canonical existing with
        update := (changes config canonical existing).update.map unversioned } := by
  have sameNames : (existing.map unversioned).map Cluster.name = existing.map Cluster.name := by
    rw [List.map_map]
    rfl
  have sameUpdates : (existing.map unversioned).filterMap (revision? canonical) =
      (existing.filterMap (revision? canonical)).map unversioned := by
    rw [List.filterMap_map, List.map_filterMap]
    exact List.filterMap_congr fun current _listed => revision?_unversioned current
  have sameDeletes : ((existing.map unversioned).filter (isUnwanted canonical)).map Cluster.name =
      (existing.filter (isUnwanted canonical)).map Cluster.name := by
    rw [List.filter_map, List.map_map]
    rfl
  have sameCount : (existing.map unversioned).countP (isUpToDate canonical) =
      existing.countP (isUpToDate canonical) := by
    rw [List.countP_map]
    rfl
  rw [changes_eq config distinct, changes_eq config (distinct_unversioned distinct)]
  unfold missing
  rw [sameNames, sameUpdates, sameDeletes, sameCount]

/-- Plans for records that differ in their versions only have the same mutations, versions
aside. -/
theorem mutations_unversioned {others : List Cluster} (config : Config)
    (canonical : Keyed ClusterSpec) (distinct : Distinct existing) (alsoDistinct : Distinct others)
    (alike : existing.map unversioned = others.map unversioned) :
    (changes config canonical existing).mutations.map Mutation.unversioned =
      (changes config canonical others).mutations.map Mutation.unversioned := by
  have samePlan := changes_unversioned config canonical distinct
  rw [alike, changes_unversioned config canonical alsoDistinct] at samePlan
  rw [Plan.mk.injEq] at samePlan
  obtain ⟨sameCreates, sameUpdates, sameDeletes, _sameCount⟩ := samePlan
  have unversionedUpdates (updates : List Cluster) :
      (updates.map Mutation.update).map Mutation.unversioned =
        (updates.map unversioned).map Mutation.update := by
    rw [List.map_map, List.map_map]
    rfl
  unfold mutations
  simp only [List.map_append]
  rw [unversionedUpdates, unversionedUpdates, sameCreates, sameUpdates, sameDeletes]

end Plan

end ClusterDiscovery

/-
What a plan accounts for.

A record is outdated, unwanted or up to date, and never two of these; a member of the set is
matched by one record or by none. So a plan has each record and each member in exactly one
place. Its parts follow the order of the records and of the keys, and nothing else in it
depends on the order in which the records are listed.
-/

import ClusterDiscovery.Proofs.Plan.Settlement
import ClusterDiscovery.Proofs.Text.Utf8
import ClusterDiscovery.Proofs.World.Keeper
import Mathlib.Data.List.Perm.Basic

namespace ClusterDiscovery.Plan

open Cluster (Distinct)

/-- The canonical set has a member for the record, and it differs. -/
def isOutdated (canonical : Keyed ClusterSpec) (current : Cluster) : Bool :=
  match canonical.get? current.name with
  | none => false
  | some desired => !desired.sameAs current.spec

/-- A record as it is updated: its metadata and its managed flag stay, and all else is that of
its member of the canonical set. -/
def Revises (canonical : Keyed ClusterSpec) (current revised : Cluster) : Prop :=
  revised.metadata = current.metadata ∧
    ∃ desired, canonical.get? current.name = some desired ∧
      revised.spec = { desired with isManaged := current.spec.isManaged }

variable {config : Config} {canonical : Keyed ClusterSpec} {existing : List Cluster}

theorem state_cases (canonical : Keyed ClusterSpec) (current : Cluster) :
    (isOutdated canonical current = true ∧ isUnwanted canonical current = false ∧
      isUpToDate canonical current = false) ∨
    (isOutdated canonical current = false ∧ isUnwanted canonical current = true ∧
      isUpToDate canonical current = false) ∨
    (isOutdated canonical current = false ∧ isUnwanted canonical current = false ∧
      isUpToDate canonical current = true) := by
  unfold isOutdated isUnwanted isUpToDate
  cases canonical.get? current.name with
  | none => exact Or.inr (Or.inl ⟨rfl, rfl, rfl⟩)
  | some desired =>
      cases differs : desired.sameAs current.spec with
      | true => exact Or.inr (Or.inr ⟨by simp [differs], rfl, by simp [differs]⟩)
      | false => exact Or.inl ⟨by simp [differs], rfl, by simp [differs]⟩

theorem revises_of_outdated (canonical : Keyed ClusterSpec) (existing : List Cluster) :
    List.Forall₂ (Revises canonical) (existing.filter (isOutdated canonical))
      (existing.filterMap (revision? canonical)) := by
  induction existing with
  | nil => exact .nil
  | cons current rest ih =>
      rw [List.filter_cons, List.filterMap_cons]
      unfold isOutdated revision?
      cases found : canonical.get? current.name with
      | none => exact ih
      | some desired =>
          cases differs : desired.sameAs current.spec with
          | true =>
              simp only [differs, Bool.not_true, Bool.false_eq_true, if_false, if_true]
              exact ih
          | false =>
              simp only [differs, Bool.not_false, Bool.false_eq_true, if_false, if_true]
              exact .cons ⟨rfl, desired, found, rfl⟩ ih

theorem names_of_revises {records revised : List Cluster}
    (revises : List.Forall₂ (Revises canonical) records revised) :
    revised.map Cluster.name = records.map Cluster.name := by
  induction revises with
  | nil => rfl
  | cons first _ ih =>
      obtain ⟨sameMetadata, _⟩ := first
      rw [List.map_cons, List.map_cons, ih]
      unfold Cluster.name
      rw [sameMetadata]

theorem perm_states (canonical : Keyed ClusterSpec) (existing : List Cluster) :
    (existing.filter (isOutdated canonical) ++ existing.filter (isUnwanted canonical) ++
      existing.filter (isUpToDate canonical)).Perm existing := by
  induction existing with
  | nil => exact .nil
  | cons current rest ih =>
      simp only [List.filter_cons]
      obtain ⟨outdated, unwanted, current⟩ | ⟨outdated, unwanted, current⟩ |
        ⟨outdated, unwanted, current⟩ := state_cases canonical current
      · simp only [outdated, unwanted, current, Bool.false_eq_true, if_false, if_true]
        exact ih.cons _
      · simp only [outdated, unwanted, current, Bool.false_eq_true, if_false, if_true]
        rw [List.append_assoc, List.cons_append]
        apply List.perm_middle.trans
        rw [← List.append_assoc]
        exact ih.cons _
      · simp only [outdated, unwanted, current, Bool.false_eq_true, if_false, if_true]
        exact List.perm_middle.trans (ih.cons _)

/-- The keys that a record has the name of are those of the records that are outdated or up to
date. -/
theorem perm_matched (distinct : Distinct existing) :
    ((existing.filter (isOutdated canonical) ++ existing.filter (isUpToDate canonical)).map
      Cluster.name).Perm
      (canonical.keys.filter fun key => (existing.map Cluster.name).contains key) := by
  have states := (perm_states canonical existing).map Cluster.name
  have shorter : (existing.filter (isOutdated canonical) ++
      existing.filter (isUpToDate canonical)).Sublist
      (existing.filter (isOutdated canonical) ++ existing.filter (isUnwanted canonical) ++
        existing.filter (isUpToDate canonical)) :=
    (List.sublist_append_left _ _).append_right _
  have nodup := (states.nodup_iff.mpr distinct).sublist (shorter.map Cluster.name)
  apply (List.perm_ext_iff_of_nodup nodup (canonical.nodup_keys.filter _)).mpr
  intro key
  simp only [List.mem_map, List.mem_append, List.mem_filter, List.contains_iff_mem]
  constructor
  · rintro ⟨current, matched, rfl⟩
    have wanted : isUnwanted canonical current = false := by
      rcases state_cases canonical current with state | state | state <;> simp_all
    have present : current ∈ existing := matched.elim And.left And.left
    have member : current.name ∈ canonical.keys := by
      apply Keyed.get?_isSome_iff.mp
      simpa [isUnwanted] using wanted
    exact ⟨member, current, present, rfl⟩
  · rintro ⟨member, current, present, rfl⟩
    have wanted : isUnwanted canonical current = false := by
      have found := Keyed.get?_isSome_iff.mpr member
      simpa [isUnwanted] using found
    refine ⟨current, ?_, rfl⟩
    rcases state_cases canonical current with state | state | state
    · exact Or.inl ⟨present, state.1⟩
    · rw [state.2.1] at wanted
      cases wanted
    · exact Or.inr ⟨present, state.2.2⟩

/-- What a plan holds of every record and of every member of the canonical set. -/
structure Accounts (config : Config) (canonical : Keyed ClusterSpec) (existing : List Cluster)
    (plan : Plan) : Prop where
  members : (plan.create.map Cluster.name ++ plan.update.map Cluster.name ++
    (existing.filter (isUpToDate canonical)).map Cluster.name).Perm canonical.keys
  records : (plan.update.map Cluster.name ++ plan.delete ++
    (existing.filter (isUpToDate canonical)).map Cluster.name).Perm (existing.map Cluster.name)
  create : plan.create =
    (canonical.entries.filter fun entry => entry.1 ∉ existing.map Cluster.name).map
      fun entry => .ownedBy config entry.2
  ordered : (plan.create.map Cluster.name).Pairwise fun first second =>
    Text.Utf8.encode first < Text.Utf8.encode second
  update : List.Forall₂ (Revises canonical) (existing.filter (isOutdated canonical)) plan.update
  delete : plan.delete = (existing.filter (isUnwanted canonical)).map Cluster.name
  unchanged : plan.unchanged = (existing.filter (isUpToDate canonical)).length

theorem names_create (config : Config) (named : Named canonical) (distinct : Distinct existing) :
    (changes config canonical existing).create.map Cluster.name =
      canonical.keys.filter fun key => !(existing.map Cluster.name).contains key := by
  rw [changes_eq config distinct, ← names_missing named, List.map_map]
  rfl

theorem accounts_changes (config : Config) (named : Named canonical)
    (distinct : Distinct existing) :
    Accounts config canonical existing (changes config canonical existing) := by
  have created := names_create config named distinct
  have revises := revises_of_outdated canonical existing
  constructor
  · rw [created, changes_eq config distinct]
    simp only
    rw [names_of_revises revises, List.append_assoc, ← List.map_append]
    apply (List.perm_append_comm.trans ((perm_matched distinct).append_right _)).trans
    exact List.filter_append_perm _ _
  · rw [changes_eq config distinct]
    simp only
    rw [names_of_revises revises, ← List.map_append, ← List.map_append]
    exact (perm_states canonical existing).map Cluster.name
  · rw [changes_eq config distinct]
    unfold missing
    rw [List.map_map]
    simp only [List.contains_eq_mem, ← decide_not]
    rfl
  · rw [created]
    apply List.Pairwise.filter
    exact canonical.pairwise_keys.imp Text.Utf8.encode_lt_encode
  · rw [changes_eq config distinct]
    exact revises
  · rw [changes_eq config distinct]
  · rw [changes_eq config distinct]
    exact List.countP_eq_length_filter

/-- A plan accounts for every record and every member of the canonical set exactly once, and in
order. If the records are listed in another order, then its updates and deletes are, and the
rest of it is the same. -/
theorem changes_partition (config : Config) (named : Named canonical)
    (distinct : Distinct existing) :
    Accounts config canonical existing (changes config canonical existing) ∧
    ∀ others, others.Perm existing →
      Accounts config canonical others (changes config canonical others) ∧
      (changes config canonical others).create = (changes config canonical existing).create ∧
      (changes config canonical others).update.Perm (changes config canonical existing).update ∧
      (changes config canonical others).delete.Perm (changes config canonical existing).delete ∧
      (changes config canonical others).unchanged =
        (changes config canonical existing).unchanged := by
  refine ⟨accounts_changes config named distinct, fun others permuted => ?_⟩
  have alsoDistinct : Distinct others := distinct.perm permuted.symm
  refine ⟨accounts_changes config named alsoDistinct, ?_⟩
  rw [changes_eq config distinct, changes_eq config alsoDistinct]
  refine ⟨?_, permuted.filterMap _, (permuted.filter _).map _, permuted.countP_eq _⟩
  have sameNames (name : String) :
      (others.map Cluster.name).contains name = (existing.map Cluster.name).contains name := by
    simp only [List.contains_eq_mem, (permuted.map Cluster.name).mem_iff]
  simp only [missing, sameNames]

section Sample

private abbrev mixedRecords : List Cluster :=
  [Sample.record "b", Sample.record "z", .ownedBy Sample.config (Sample.spec "c")]

private abbrev mixedPlan : Plan :=
  changes Sample.config (Sample.canonical ["a", "b", "c"]) mixedRecords

/-- One member is created, one record updated and another deleted, and one is left as it is. -/
theorem changes_partition_sample :
    mixedPlan.create.map Cluster.name = ["a"] ∧ mixedPlan.update.map Cluster.name = ["b"] ∧
      mixedPlan.delete = ["z"] ∧ mixedPlan.unchanged = 1 ∧
      Accounts Sample.config (Sample.canonical ["a", "b", "c"]) mixedRecords mixedPlan ∧
      (changes Sample.config (Sample.canonical ["a", "b", "c"]) mixedRecords.reverse).unchanged =
        mixedPlan.unchanged := by
  have own : ∀ entry ∈ (Sample.canonical ["a", "b", "c"]).entries, entry.2.name = entry.1 := by
    decide +kernel
  have named : Named (Sample.canonical ["a", "b", "c"]) := fun key spec found =>
    own (key, spec) (Keyed.get?_eq_some_iff.mp found)
  have distinct : Distinct mixedRecords := by decide +kernel
  obtain ⟨accounts, permuting⟩ := changes_partition Sample.config named distinct
  obtain ⟨_, _, _, _, unchanged⟩ := permuting _ (List.reverse_perm mixedRecords)
  exact ⟨by decide +kernel, by decide +kernel, by decide +kernel, by decide +kernel, accounts,
    unchanged⟩

end Sample

end ClusterDiscovery.Plan

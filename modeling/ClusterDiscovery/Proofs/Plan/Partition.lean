/-
A plan as a partition.

The comparison goes through the records and takes the members of the set that they match
away. For records of distinct names its four parts can be read off the records and the set
directly: the records that differ, those without a member, the number of those that are up
to date, and the members without a record.
-/

import ClusterDiscovery.Plan
import ClusterDiscovery.Proofs.Cluster.Listing
import ClusterDiscovery.Proofs.Keyed
import Mathlib.Data.List.Basic

namespace ClusterDiscovery.Plan

open Cluster (Distinct)

def revision? (canonical : Keyed ClusterSpec) (current : Cluster) : Option Cluster :=
  match canonical.get? current.name with
  | none => none
  | some desired =>
      if desired.sameAs current.spec then none else some (current.withSpec desired)

def isUnwanted (canonical : Keyed ClusterSpec) (current : Cluster) : Bool :=
  (canonical.get? current.name).isNone

def isUpToDate (canonical : Keyed ClusterSpec) (current : Cluster) : Bool :=
  match canonical.get? current.name with
  | none => false
  | some desired => desired.sameAs current.spec

theorem revision?_eq_some_iff {canonical : Keyed ClusterSpec} {current revised : Cluster} :
    revision? canonical current = some revised ↔
      ∃ desired, canonical.get? current.name = some desired ∧
        desired.sameAs current.spec = false ∧ revised = current.withSpec desired := by
  unfold revision?
  cases found : canonical.get? current.name with
  | none => simp
  | some desired =>
      constructor
      · intro revised
        simp only at revised
        split at revised
        · cases revised
        · rename_i differs
          exact ⟨desired, rfl, eq_false_of_ne_true differs, (Option.some.inj revised).symm⟩
      · rintro ⟨other, same, differs, rfl⟩
        cases same
        simp only [differs, Bool.false_eq_true, if_false]

theorem name_of_revision? {canonical : Keyed ClusterSpec} {current revised : Cluster}
    (found : revision? canonical current = some revised) : revised.name = current.name := by
  obtain ⟨desired, _member, _differs, same⟩ := revision?_eq_some_iff.mp found
  rw [same]
  rfl

variable {canonical : Keyed ClusterSpec} {existing : List Cluster}

private theorem get?_erase_of_mem {first current : Cluster} {rest : List Cluster}
    (distinct : Distinct (first :: rest)) (member : current ∈ rest) :
    (canonical.erase first.name).get? current.name = canonical.get? current.name := by
  apply Keyed.get?_erase_of_ne
  intro same
  exact (List.nodup_cons.mp distinct).1 (List.mem_map.mpr ⟨current, member, same⟩)

theorem compare_update (distinct : Distinct existing) :
    (compare canonical existing).update = existing.filterMap (revision? canonical) := by
  induction existing generalizing canonical with
  | nil => rfl
  | cons current rest ih =>
      have distinctRest : Distinct rest := (List.nodup_cons.mp distinct).2
      have erased :
          rest.filterMap (revision? (canonical.erase current.name)) =
            rest.filterMap (revision? canonical) := by
        apply List.filterMap_congr
        intro other member
        unfold revision?
        rw [get?_erase_of_mem distinct member]
      rw [List.filterMap_cons]
      unfold compare revision?
      cases found : canonical.get? current.name with
      | none => exact ih distinctRest
      | some desired =>
          cases same : desired.sameAs current.spec with
          | true =>
              simp only [same, if_true]
              rw [ih distinctRest]
              exact erased
          | false =>
              simp only [same, Bool.false_eq_true, if_false]
              rw [ih distinctRest]
              exact congrArg _ erased

theorem compare_delete (distinct : Distinct existing) :
    (compare canonical existing).delete =
      (existing.filter (isUnwanted canonical)).map Cluster.name := by
  induction existing generalizing canonical with
  | nil => rfl
  | cons current rest ih =>
      have distinctRest : Distinct rest := (List.nodup_cons.mp distinct).2
      have erased :
          rest.filter (isUnwanted (canonical.erase current.name)) =
            rest.filter (isUnwanted canonical) := by
        apply List.filter_congr
        intro other member
        unfold isUnwanted
        rw [get?_erase_of_mem distinct member]
      rw [List.filter_cons]
      unfold compare
      cases found : canonical.get? current.name with
      | none =>
          simp only [isUnwanted, found, Option.isNone_none, if_true, List.map_cons]
          rw [ih distinctRest]
      | some desired =>
          simp only [isUnwanted, found, Option.isNone_some, Bool.false_eq_true, if_false]
          cases same : desired.sameAs current.spec with
          | true =>
              simp only [if_true]
              rw [ih distinctRest, erased]
          | false =>
              simp only [Bool.false_eq_true, if_false]
              rw [ih distinctRest, erased]

theorem compare_unchanged (distinct : Distinct existing) :
    (compare canonical existing).unchanged = existing.countP (isUpToDate canonical) := by
  induction existing generalizing canonical with
  | nil => rfl
  | cons current rest ih =>
      have distinctRest : Distinct rest := (List.nodup_cons.mp distinct).2
      have erased :
          rest.countP (isUpToDate (canonical.erase current.name)) =
            rest.countP (isUpToDate canonical) := by
        apply List.countP_congr
        intro other member
        unfold isUpToDate
        rw [get?_erase_of_mem distinct member]
      rw [List.countP_cons]
      unfold compare
      cases found : canonical.get? current.name with
      | none =>
          simp only [isUpToDate, found, Bool.false_eq_true, if_false, Nat.add_zero]
          rw [ih distinctRest]
      | some desired =>
          simp only [isUpToDate, found]
          cases same : desired.sameAs current.spec with
          | true =>
              simp only [if_true]
              rw [ih distinctRest, erased]
          | false =>
              simp only [Bool.false_eq_true, if_false, Nat.add_zero]
              rw [ih distinctRest, erased]

theorem compare_unmatched :
    (compare canonical existing).unmatched.entries =
      canonical.entries.filter fun entry => !(existing.map Cluster.name).contains entry.1 := by
  induction existing generalizing canonical with
  | nil =>
      exact (List.filter_eq_self.mpr fun _entry _member => rfl).symm
  | cons current rest ih =>
      have erased :
          (canonical.erase current.name).entries.filter
              (fun entry => !(rest.map Cluster.name).contains entry.1) =
            canonical.entries.filter
              (fun entry => !((current :: rest).map Cluster.name).contains entry.1) := by
        change (canonical.entries.filter _).filter _ = _
        rw [List.filter_filter]
        apply List.filter_congr
        intro entry _member
        simp only [List.map_cons, List.contains_cons, Bool.not_or, bne]
        exact Bool.and_comm _ _
      unfold compare
      cases found : canonical.get? current.name with
      | none =>
          simp only
          rw [ih]
          apply List.filter_congr
          intro entry member
          have different : (entry.1 == current.name) = false := by
            rw [beq_eq_false_iff_ne]
            intro same
            have present := Keyed.get?_eq_some_iff.mpr (show (entry.1, entry.2) ∈ _ from member)
            rw [same, found] at present
            cases present
          simp only [List.map_cons, List.contains_cons, different, Bool.false_or]
      | some desired =>
          cases same : desired.sameAs current.spec with
          | true =>
              simp only [same, if_true]
              rw [ih, erased]
          | false =>
              simp only [same, Bool.false_eq_true, if_false]
              rw [ih, erased]

def missing (canonical : Keyed ClusterSpec) (existing : List Cluster) : List ClusterSpec :=
  (canonical.entries.filter fun entry => !(existing.map Cluster.name).contains entry.1).map
    Prod.snd

/-- A plan, read off the records and the set. -/
theorem changes_eq (config : Config) (distinct : Distinct existing) :
    changes config canonical existing =
      { create := (missing canonical existing).map (Cluster.ownedBy config)
        update := existing.filterMap (revision? canonical)
        delete := (existing.filter (isUnwanted canonical)).map Cluster.name
        unchanged := existing.countP (isUpToDate canonical) } := by
  unfold changes missing
  simp only [compare_update distinct, compare_delete distinct, compare_unchanged distinct,
    Keyed.values, compare_unmatched]

theorem of_mem_create {config : Config} {cluster : Cluster}
    (member : cluster ∈ (changes config canonical existing).create) :
    ∃ key spec, canonical.get? key = some spec ∧ cluster = .ownedBy config spec := by
  obtain ⟨spec, isUnmatched, rfl⟩ := List.mem_map.mp member
  obtain ⟨entry, left, rfl⟩ := List.mem_map.mp isUnmatched
  rw [compare_unmatched] at left
  exact ⟨entry.1, entry.2, Keyed.get?_eq_some_iff.mpr (List.mem_of_mem_filter left), rfl⟩

theorem of_mem_update {cluster : Cluster}
    (member : cluster ∈ (compare canonical existing).update) :
    ∃ current ∈ existing, ∃ desired, canonical.get? current.name = some desired ∧
      cluster = current.withSpec desired := by
  induction existing generalizing canonical with
  | nil => cases member
  | cons current rest ih =>
      unfold compare at member
      split at member
      · obtain ⟨known, present, made⟩ := ih member
        exact ⟨known, List.mem_cons_of_mem _ present, made⟩
      · rename_i desired found
        have further (later : cluster ∈ (compare (canonical.erase current.name) rest).update) :
            ∃ known ∈ current :: rest, ∃ desired, canonical.get? known.name = some desired ∧
              cluster = known.withSpec desired := by
          obtain ⟨known, present, other, left, made⟩ := ih later
          exact ⟨known, List.mem_cons_of_mem _ present, other, Keyed.get?_of_get?_erase left,
            made⟩
        simp only at member
        split at member
        · exact further member
        · rcases List.mem_cons.mp member with made | later
          · exact ⟨current, List.mem_cons_self, desired, found, made⟩
          · exact further later

end ClusterDiscovery.Plan

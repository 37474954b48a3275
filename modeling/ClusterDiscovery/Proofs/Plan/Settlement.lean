/-
What a plan settles.

A canonical set says of every name what its record becomes: it goes, it stays, it takes a
new specification, or it is created. A plan has one mutation for each name whose record
does not yet say so, and none for the others, so its mutations settle every name, and a
part of them settles some names and leaves the others alone.
-/

import ClusterDiscovery.Proofs.Plan.Partition
import ClusterDiscovery.Proofs.Plan.Revision

namespace ClusterDiscovery

open Cluster (Distinct named? unversioned)

/-- Every specification of a set stands under its own name. -/
def Plan.Named (canonical : Keyed ClusterSpec) : Prop :=
  ∀ key spec, canonical.get? key = some spec → spec.name = key

namespace Plan

/-- What becomes of the record of a name. -/
def settled? (config : Config) (canonical : Keyed ClusterSpec) (target : String)
    (current : Option Cluster) : Option Cluster :=
  (canonical.get? target).map fun desired =>
    match current with
    | none => Cluster.ownedBy config desired
    | some record => if desired.sameAs record.spec then record else record.withSpec desired

variable {config : Config} {canonical : Keyed ClusterSpec} {existing : List Cluster}

theorem sameAs_of_settled? {target : String} {current : Option Cluster} {record : Cluster}
    (settled : settled? config canonical target current = some record) :
    ∃ desired, canonical.get? target = some desired ∧ desired.sameAs record.spec = true := by
  unfold settled? at settled
  obtain ⟨desired, found, same⟩ := Option.map_eq_some_iff.mp settled
  refine ⟨desired, found, ?_⟩
  cases current with
  | none =>
      rw [← same]
      exact desired.sameAs_refl
  | some old =>
      simp only at same
      split at same
      · rename_i unchanged
        rw [← same]
        exact unchanged
      · rw [← same]
        exact desired.sameAs_withManaged _

theorem settled?_of_settled {target : String} {current after : Option Cluster}
    (settled : after.map unversioned =
      (settled? config canonical target current).map unversioned) :
    settled? config canonical target after = after := by
  cases after with
  | none =>
      have gone : settled? config canonical target current = none :=
        Option.map_eq_none_iff.mp settled.symm
      have absent : canonical.get? target = none := Option.map_eq_none_iff.mp gone
      unfold settled?
      rw [absent]
      rfl
  | some record =>
      obtain ⟨result, found, same⟩ := Option.map_eq_some_iff.mp settled.symm
      obtain ⟨desired, member, unchanged⟩ := sameAs_of_settled? found
      have sameSpec : result.spec = record.spec := congrArg (fun cluster => cluster.spec) same
      rw [sameSpec] at unchanged
      unfold settled?
      rw [member, Option.map_some]
      simp only [unchanged, if_true]

theorem mem_missing {spec : ClusterSpec} :
    spec ∈ missing canonical existing ↔
      ∃ key, canonical.get? key = some spec ∧ key ∉ existing.map Cluster.name := by
  unfold missing
  constructor
  · intro member
    obtain ⟨entry, kept, same⟩ := List.mem_map.mp member
    obtain ⟨present, absent⟩ := List.mem_filter.mp kept
    refine ⟨entry.1, ?_, by simpa using absent⟩
    rw [← same]
    exact Keyed.get?_eq_some_iff.mpr present
  · rintro ⟨key, found, absent⟩
    refine List.mem_map.mpr ⟨(key, spec), List.mem_filter.mpr ⟨?_, by simpa using absent⟩, rfl⟩
    exact Keyed.get?_eq_some_iff.mp found

theorem names_missing (named : Named canonical) (existing : List Cluster) :
    (missing canonical existing).map ClusterSpec.name =
      canonical.keys.filter fun key => !(existing.map Cluster.name).contains key := by
  unfold missing Keyed.keys
  rw [List.map_map, List.filter_map]
  apply List.map_congr_left
  intro entry kept
  exact named _ _ (Keyed.get?_eq_some_iff.mpr (List.mem_of_mem_filter kept))

theorem mem_mutations (distinct : Distinct existing) {mutation : Mutation} :
    mutation ∈ (changes config canonical existing).mutations ↔
      (∃ spec ∈ missing canonical existing, mutation = .create (.ownedBy config spec)) ∨
      (∃ current ∈ existing, ∃ revised, revision? canonical current = some revised ∧
        mutation = .update revised) ∨
      (∃ current ∈ existing, isUnwanted canonical current = true ∧
        mutation = .delete current.name) := by
  rw [changes_eq config distinct]
  unfold mutations
  simp only [List.mem_append, List.mem_map, List.mem_filterMap, List.mem_filter]
  constructor
  · rintro ((⟨_, ⟨spec, member, rfl⟩, rfl⟩ | ⟨revised, ⟨current, member, found⟩, rfl⟩) |
      ⟨_, ⟨current, ⟨member, unwanted⟩, rfl⟩, rfl⟩)
    · exact Or.inl ⟨spec, member, rfl⟩
    · exact Or.inr (Or.inl ⟨current, member, revised, found, rfl⟩)
    · exact Or.inr (Or.inr ⟨current, member, unwanted, rfl⟩)
  · rintro (⟨spec, member, rfl⟩ | ⟨current, member, revised, found, rfl⟩ |
      ⟨current, member, unwanted, rfl⟩)
    · exact Or.inl (Or.inl ⟨_, ⟨spec, member, rfl⟩, rfl⟩)
    · exact Or.inl (Or.inr ⟨revised, ⟨current, member, found⟩, rfl⟩)
    · exact Or.inr ⟨_, ⟨current, ⟨member, unwanted⟩, rfl⟩, rfl⟩

/-- Each mutation of a plan makes of its record what is to become of it. -/
theorem outcome_settles (distinct : Distinct existing) (named : Named canonical)
    {mutation : Mutation} (member : mutation ∈ (changes config canonical existing).mutations)
    (version : Option String) :
    (mutation.outcome version (named? existing mutation.name)).map unversioned =
      (settled? config canonical mutation.name (named? existing mutation.name)).map
        unversioned := by
  rcases (mem_mutations distinct).mp member with
    ⟨spec, isMissing, rfl⟩ | ⟨current, isPresent, revised, found, rfl⟩ |
      ⟨current, isPresent, unwanted, rfl⟩
  · obtain ⟨key, found, absent⟩ := mem_missing.mp isMissing
    have ownName : spec.name = key := named key spec found
    have noRecord : named? existing spec.name = none := by
      rw [ownName]
      exact Cluster.named?_eq_none_iff.mpr absent
    simp only [Mutation.name, Cluster.name_ownedBy, noRecord, Mutation.outcome, settled?]
    rw [ownName, found]
    rfl
  · obtain ⟨desired, hasMember, differs, rfl⟩ := revision?_eq_some_iff.mp found
    have ownRecord := Cluster.named?_of_mem distinct isPresent
    simp only [Mutation.name, Cluster.name_withSpec, ownRecord, Mutation.outcome, settled?]
    rw [hasMember]
    simp [differs]
  · have absent : canonical.get? current.name = none := Option.isNone_iff_eq_none.mp unwanted
    simp only [Mutation.name, Mutation.outcome, settled?]
    rw [absent]
    rfl

theorem settled?_of_not_mem (distinct : Distinct existing) (named : Named canonical)
    {target : String}
    (untouched : target ∉ (changes config canonical existing).mutations.map Mutation.name) :
    settled? config canonical target (named? existing target) = named? existing target := by
  have unplanned (mutation : Mutation) (own : mutation.name = target) :
      mutation ∉ (changes config canonical existing).mutations := by
    intro member
    exact untouched (List.mem_map.mpr ⟨mutation, member, own⟩)
  unfold settled?
  cases found : canonical.get? target with
  | none =>
      cases current : named? existing target with
      | none => rfl
      | some record =>
          have own := Cluster.name_of_named? current
          refine absurd ((mem_mutations distinct).mpr (Or.inr (Or.inr
            ⟨record, Cluster.mem_of_named? current, ?_, rfl⟩))) (unplanned _ own)
          unfold isUnwanted
          rw [own, found]
          rfl
  | some desired =>
      cases current : named? existing target with
      | none =>
          have own : desired.name = target := named target desired found
          refine absurd ((mem_mutations distinct).mpr (Or.inl ⟨desired, ?_, rfl⟩))
            (unplanned _ own)
          exact mem_missing.mpr ⟨target, found, Cluster.named?_eq_none_iff.mp current⟩
      | some record =>
          have own := Cluster.name_of_named? current
          cases same : desired.sameAs record.spec with
          | true => simp [same]
          | false =>
              refine absurd ((mem_mutations distinct).mpr (Or.inr (Or.inl
                ⟨record, Cluster.mem_of_named? current, record.withSpec desired, ?_, rfl⟩)))
                (unplanned _ own)
              refine revision?_eq_some_iff.mpr ⟨desired, ?_, same, rfl⟩
              rw [own]
              exact found

/-- What becomes of the records is not changed by a mutation of the plan. -/
theorem settled?_revise (distinct : Distinct existing) (named : Named canonical)
    {mutation : Mutation} (member : mutation ∈ (changes config canonical existing).mutations)
    (version : Option String) (target : String) :
    (settled? config canonical target
        (named? (mutation.revise version existing) target)).map unversioned =
      (settled? config canonical target (named? existing target)).map unversioned := by
  by_cases own : target = mutation.name
  · subst own
    have settles := outcome_settles distinct named member version
    rw [Mutation.named?_revise_self, settled?_of_settled settles]
    exact settles
  · rw [Mutation.named?_revise_of_ne own]

/-- The records are those of a canonical set. -/
structure Settled (canonical : Keyed ClusterSpec) (records : List Cluster) : Prop where
  names : (records.map Cluster.name).Perm canonical.keys
  specs : ∀ record ∈ records, ∃ desired,
    canonical.get? record.name = some desired ∧ desired.sameAs record.spec = true

theorem Settled.distinct {records : List Cluster} (settled : Settled canonical records) :
    Distinct records :=
  settled.names.nodup_iff.mpr canonical.nodup_keys

theorem Settled.perm {records others : List Cluster} (settled : Settled canonical records)
    (rearranged : records.Perm others) : Settled canonical others where
  names := (rearranged.map Cluster.name).symm.trans settled.names
  specs := fun record member => settled.specs record (rearranged.mem_iff.mpr member)

/-- Records that are settled stay as they are. -/
theorem changes_of_settled (config : Config) {records : List Cluster}
    (settled : Settled canonical records) :
    changes config canonical records = ⟨[], [], [], canonical.size⟩ := by
  have noneMissing : missing canonical records = [] := by
    rw [List.eq_nil_iff_forall_not_mem]
    intro spec member
    obtain ⟨key, found, absent⟩ := mem_missing.mp member
    apply absent
    rw [settled.names.mem_iff, ← Keyed.get?_isSome_iff, found]
    rfl
  have noneRevised : records.filterMap (revision? canonical) = [] := by
    rw [List.filterMap_eq_nil_iff]
    intro record member
    obtain ⟨desired, found, same⟩ := settled.specs record member
    unfold revision?
    simp only [found, same, if_true]
  have noneUnwanted : records.filter (isUnwanted canonical) = [] := by
    rw [List.filter_eq_nil_iff]
    intro record member
    obtain ⟨desired, found, _same⟩ := settled.specs record member
    simp [isUnwanted, found]
  have allUpToDate : records.countP (isUpToDate canonical) = canonical.size := by
    have everyOne : records.countP (isUpToDate canonical) = records.length := by
      rw [List.countP_eq_length]
      intro record member
      obtain ⟨desired, found, same⟩ := settled.specs record member
      simp only [isUpToDate, found, same]
    have sameLength := settled.names.length_eq
    rw [everyOne]
    simpa [Keyed.keys, Keyed.size] using sameLength
  rw [changes_eq config settled.distinct, noneMissing, noneRevised, noneUnwanted, allUpToDate]
  rfl

theorem settled_of_forall (distinct : Distinct existing)
    (everyName : ∀ target,
      settled? config canonical target (named? existing target) = named? existing target) :
    Settled canonical existing := by
  refine ⟨?_, ?_⟩
  · rw [List.perm_ext_iff_of_nodup distinct canonical.nodup_keys]
    intro target
    rw [← Keyed.get?_isSome_iff]
    have same := everyName target
    unfold settled? at same
    constructor
    · intro member
      cases found : canonical.get? target with
      | none =>
          rw [found, Option.map_none] at same
          exact absurd member (Cluster.named?_eq_none_iff.mp same.symm)
      | some desired => rfl
    · intro isMember
      obtain ⟨desired, found⟩ := Option.isSome_iff_exists.mp isMember
      by_contra absent
      rw [found, Cluster.named?_eq_none_iff.mpr absent] at same
      cases same
  · intro record member
    have own := Cluster.named?_of_mem distinct member
    have settled := everyName record.name
    rw [own] at settled
    exact sameAs_of_settled? settled

end Plan

end ClusterDiscovery

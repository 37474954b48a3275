/-
Resumption of a plan.

A mutation of a plan takes itself out of the next plan and adds nothing to it. So a plan
that was applied up to some mutation is followed by a plan that goes on with the next one,
and what becomes of each record is the same as if the first plan had been applied as a
whole.
-/

import ClusterDiscovery.Proofs.Plan.Settlement

namespace ClusterDiscovery

open Cluster (Distinct named? unversioned)

namespace Plan

variable {config : Config} {canonical : Keyed ClusterSpec} {existing : List Cluster}
  {version : Option String}

theorem mutations_eq_cons {plan : Plan} {first : Mutation} {rest : List Mutation}
    (same : plan.mutations = first :: rest) :
    (∃ cluster create, plan.create = cluster :: create ∧ first = .create cluster ∧
      rest = create.map .create ++ plan.update.map .update ++ plan.delete.map .delete) ∨
    (plan.create = [] ∧ ∃ cluster update, plan.update = cluster :: update ∧
      first = .update cluster ∧ rest = update.map .update ++ plan.delete.map .delete) ∨
    (plan.create = [] ∧ plan.update = [] ∧ ∃ name delete, plan.delete = name :: delete ∧
      first = .delete name ∧ rest = delete.map .delete) := by
  unfold mutations at same
  cases creates : plan.create with
  | cons cluster create =>
      rw [creates] at same
      obtain ⟨head, tail⟩ := List.cons.inj same
      exact Or.inl ⟨cluster, create, rfl, head.symm, tail.symm⟩
  | nil =>
      rw [creates] at same
      cases updates : plan.update with
      | cons cluster update =>
          rw [updates] at same
          obtain ⟨head, tail⟩ := List.cons.inj same
          exact Or.inr (Or.inl ⟨rfl, cluster, update, rfl, head.symm, tail.symm⟩)
      | nil =>
          rw [updates] at same
          cases deletes : plan.delete with
          | nil =>
              rw [deletes] at same
              cases same
          | cons name delete =>
              rw [deletes] at same
              obtain ⟨head, tail⟩ := List.cons.inj same
              exact Or.inr (Or.inr ⟨rfl, rfl, name, delete, rfl, head.symm, tail.symm⟩)

private theorem filter_ne_head {α : Type} (key : α → String) {first : α} {rest : List α}
    (distinct : ((first :: rest).map key).Nodup) :
    (first :: rest).filter (fun other => key other != key first) = rest := by
  obtain ⟨absent, _distinctRest⟩ := List.nodup_cons.mp distinct
  have dropped : (key first != key first) = false := by simp
  rw [List.filter_cons, dropped, if_neg Bool.false_ne_true, List.filter_eq_self]
  intro other member
  rw [bne_iff_ne]
  intro same
  exact absent (List.mem_map.mpr ⟨other, member, same⟩)

private theorem nodup_names_missing (existing : List Cluster) (named : Named canonical) :
    ((missing canonical existing).map ClusterSpec.name).Nodup := by
  rw [names_missing named]
  exact canonical.nodup_keys.filter _

private theorem missing_append (named : Named canonical) (record : Cluster) :
    missing canonical (existing ++ [record]) =
      (missing canonical existing).filter fun spec => spec.name != record.name := by
  unfold missing
  rw [List.filter_map, List.filter_filter]
  congr 1
  apply List.filter_congr
  intro entry member
  have own : entry.2.name = entry.1 := named _ _ (Keyed.get?_eq_some_iff.mpr member)
  simp only [List.map_append, List.map_singleton, List.contains_append, Function.comp_apply, own,
    Bool.not_or, Bool.and_comm, List.contains_cons, List.contains_nil, Bool.or_false, bne]

private theorem changes_revise_create (distinct : Distinct existing) (named : Named canonical)
    {cluster : Cluster} {create : List Cluster}
    (next : (changes config canonical existing).create = cluster :: create) :
    (changes config canonical ((Mutation.create cluster).revise version existing)).mutations =
      create.map .create ++ (changes config canonical existing).update.map .update ++
        (changes config canonical existing).delete.map .delete := by
  rw [changes_eq config distinct] at next ⊢
  simp only at next ⊢
  obtain ⟨spec, others, isMissing, rfl, rfl⟩ := List.map_eq_cons_iff.mp next
  have member : spec ∈ missing canonical existing := isMissing ▸ List.mem_cons_self
  obtain ⟨key, found, absent⟩ := mem_missing.mp member
  have own : spec.name = key := named key spec found
  subst own
  have revised : (Mutation.create (.ownedBy config spec)).revise version existing =
      existing ++ [(Cluster.ownedBy config spec).withVersion version] := by
    rw [Mutation.revise_create, Cluster.name_ownedBy, Cluster.named?_eq_none_iff.mpr absent]
    rfl
  have isMember : canonical.get? ((Cluster.ownedBy config spec).withVersion version).name =
      some spec := found
  have stays : revision? canonical ((Cluster.ownedBy config spec).withVersion version) = none := by
    unfold revision?
    rw [isMember]
    exact if_pos (ClusterSpec.sameAs_refl spec)
  have wanted :
      isUnwanted canonical ((Cluster.ownedBy config spec).withVersion version) = false := by
    unfold isUnwanted
    rw [isMember]
    rfl
  have others : missing canonical
      (existing ++ [(Cluster.ownedBy config spec).withVersion version]) = others := by
    have distinctMissing := nodup_names_missing existing named
    rw [isMissing] at distinctMissing
    rw [missing_append named, isMissing]
    exact filter_ne_head ClusterSpec.name distinctMissing
  rw [changes_eq config (Mutation.distinct_revise _ distinct), revised, others]
  unfold mutations
  simp [List.filterMap_append, List.filter_append, stays, wanted]

private theorem missing_of_names {records : List Cluster}
    (sameNames : (records.map Cluster.name).Perm (existing.map Cluster.name)) :
    missing canonical records = missing canonical existing := by
  unfold missing
  congr 1
  apply List.filter_congr
  intro entry _member
  rw [sameNames.contains_eq]

theorem pairwise_revisions {relation : String → String → Prop}
    (related : existing.Pairwise fun first second => relation first.name second.name) :
    (existing.filterMap (revision? canonical)).Pairwise fun first second =>
      relation first.name second.name := by
  refine List.pairwise_filterMap.mpr (related.imp ?_)
  intro first second holds firstRevised isFirst secondRevised isSecond
  rw [name_of_revision? isFirst, name_of_revision? isSecond]
  exact holds

private theorem changes_revise_update (distinct : Distinct existing) {cluster : Cluster}
    {update : List Cluster} (noCreate : (changes config canonical existing).create = [])
    (next : (changes config canonical existing).update = cluster :: update) :
    (changes config canonical ((Mutation.update cluster).revise version existing)).mutations =
      update.map .update ++ (changes config canonical existing).delete.map .delete := by
  rw [changes_eq config distinct] at noCreate next ⊢
  simp only at noCreate next ⊢
  let put (old : Cluster) : Cluster :=
    if old.name = cluster.name then cluster.withVersion version else old
  have revised : (Mutation.update cluster).revise version existing = existing.map put := rfl
  have samePlace (old : Cluster) : (put old).name = old.name := by
    simp only [put]
    split
    · rename_i same
      exact same.symm
    · rfl
  have sameNames : (existing.map put).map Cluster.name = existing.map Cluster.name := by
    rw [List.map_map]
    exact List.map_congr_left fun old _member => samePlace old
  have member : cluster ∈ existing.filterMap (revision? canonical) := next ▸ List.mem_cons_self
  obtain ⟨current, isPresent, isRevision⟩ := List.mem_filterMap.mp member
  obtain ⟨desired, isMember, _differs, made⟩ := revision?_eq_some_iff.mp isRevision
  have stays : revision? canonical (cluster.withVersion version) = none := by
    have found : canonical.get? (cluster.withVersion version).name = some desired := by
      rw [made]
      exact isMember
    unfold revision?
    rw [found, made]
    exact if_pos (desired.sameAs_withManaged _)
  have others : (existing.map put).filterMap (revision? canonical) = update := by
    have distinctRevisions : ((cluster :: update).map Cluster.name).Nodup := by
      rw [← next]
      exact List.pairwise_map.mpr (pairwise_revisions (List.pairwise_map.mp distinct))
    rw [← filter_ne_head Cluster.name distinctRevisions, ← next, List.filter_filterMap,
      List.filterMap_map]
    apply List.filterMap_congr
    intro old _present
    simp only [Function.comp_apply, put]
    by_cases own : old.name = cluster.name
    · rw [if_pos own, stays]
      cases revisedOld : revision? canonical old with
      | none => rfl
      | some other =>
          have sameName := name_of_revision? revisedOld
          simp [Option.filter, sameName, own]
    · rw [if_neg own]
      cases revisedOld : revision? canonical old with
      | none => rfl
      | some other =>
          have sameName := name_of_revision? revisedOld
          simp [Option.filter, sameName, own]
  have sameDeletes : ((existing.map put).filter (isUnwanted canonical)).map Cluster.name =
      (existing.filter (isUnwanted canonical)).map Cluster.name := by
    have sameTest : isUnwanted canonical ∘ put = isUnwanted canonical := by
      funext old
      simp only [Function.comp_apply, isUnwanted, samePlace]
    rw [List.filter_map, sameTest, List.map_map]
    exact List.map_congr_left fun old _member => samePlace old
  have stillNone : missing canonical (existing.map put) = [] := by
    rw [missing_of_names (List.Perm.of_eq sameNames)]
    exact List.map_eq_nil_iff.mp noCreate
  rw [changes_eq config (Mutation.distinct_revise _ distinct), revised, others, sameDeletes,
    stillNone]
  rfl

private theorem changes_revise_delete (distinct : Distinct existing) {name : String}
    {delete : List String} (noCreate : (changes config canonical existing).create = [])
    (noUpdate : (changes config canonical existing).update = [])
    (next : (changes config canonical existing).delete = name :: delete) :
    (changes config canonical ((Mutation.delete name).revise version existing)).mutations =
      delete.map .delete := by
  rw [changes_eq config distinct] at noCreate noUpdate next
  simp only at noCreate noUpdate next
  have member : name ∈ (existing.filter (isUnwanted canonical)).map Cluster.name :=
    next ▸ List.mem_cons_self
  obtain ⟨current, isUnwantedRecord, own⟩ := List.mem_map.mp member
  have absent : canonical.get? name = none := by
    rw [← own]
    exact Option.isNone_iff_eq_none.mp (List.mem_filter.mp isUnwantedRecord).2
  have stillNone :
      missing canonical (existing.filter fun old => old.name != name) = [] := by
    rw [List.eq_nil_iff_forall_not_mem]
    intro spec isMissing
    obtain ⟨key, found, noRecord⟩ := mem_missing.mp isMissing
    have wasMissing : spec ∈ missing canonical existing := by
      refine mem_missing.mpr ⟨key, found, ?_⟩
      intro hadRecord
      obtain ⟨record, present, rfl⟩ := List.mem_map.mp hadRecord
      apply noRecord
      refine List.mem_map.mpr ⟨record, List.mem_filter.mpr ⟨present, ?_⟩, rfl⟩
      rw [bne_iff_ne]
      intro same
      rw [same, absent] at found
      cases found
    rw [List.map_eq_nil_iff.mp noCreate] at wasMissing
    cases wasMissing
  have stillNoRevision :
      (existing.filter fun old => old.name != name).filterMap (revision? canonical) = [] := by
    rw [List.filterMap_eq_nil_iff] at noUpdate ⊢
    intro record present
    exact noUpdate record (List.mem_of_mem_filter present)
  have others :
      ((existing.filter fun old => old.name != name).filter (isUnwanted canonical)).map
        Cluster.name = delete := by
    have distinctDeletes : ((name :: delete).map id).Nodup := by
      rw [List.map_id, ← next]
      exact List.Nodup.sublist (List.filter_sublist.map _) distinct
    rw [← filter_ne_head id distinctDeletes, ← next, List.filter_map, List.filter_filter,
      List.filter_filter]
    congr 1
    apply List.filter_congr
    intro record _present
    exact Bool.and_comm _ _
  rw [changes_eq config (Mutation.distinct_revise _ distinct), Mutation.revise_delete, others,
    stillNone, stillNoRevision]
  rfl

/-- Each mutation takes itself out of the next plan, and adds nothing to it. -/
theorem changes_revise (distinct : Distinct existing) (named : Named canonical)
    {mutation : Mutation} {rest : List Mutation}
    (next : (changes config canonical existing).mutations = mutation :: rest)
    (version : Option String) :
    (changes config canonical (mutation.revise version existing)).mutations = rest := by
  rcases mutations_eq_cons next with
    ⟨cluster, create, creates, rfl, rfl⟩ | ⟨noCreate, cluster, update, updates, rfl, rfl⟩ |
      ⟨noCreate, noUpdate, name, delete, deletes, rfl, rfl⟩
  · exact changes_revise_create distinct named creates
  · exact changes_revise_update distinct noCreate updates
  · exact changes_revise_delete distinct noCreate noUpdate deletes

private theorem parts_of_mutations {first second : Plan}
    (same : first.mutations = second.mutations) :
    first.create = second.create ∧ first.update = second.update ∧
      first.delete = second.delete := by
  let created? : Mutation → Option Cluster
    | .create cluster => some cluster
    | _ => none
  let updated? : Mutation → Option Cluster
    | .update cluster => some cluster
    | _ => none
  let deleted? : Mutation → Option String
    | .delete name => some name
    | _ => none
  have creates (plan : Plan) : plan.mutations.filterMap created? = plan.create := by
    simp [mutations, created?, List.filterMap_append, List.filterMap_map]
  have updates (plan : Plan) : plan.mutations.filterMap updated? = plan.update := by
    simp [mutations, updated?, List.filterMap_append, List.filterMap_map]
  have deletes (plan : Plan) : plan.mutations.filterMap deleted? = plan.delete := by
    simp [mutations, deleted?, List.filterMap_append, List.filterMap_map]
  refine ⟨?_, ?_, ?_⟩
  · rw [← creates first, ← creates second, same]
  · rw [← updates first, ← updates second, same]
  · rw [← deletes first, ← deletes second, same]

theorem parts_of_drop {plan next : Plan} {count : Nat}
    (same : next.mutations = plan.mutations.drop count) :
    next.create = plan.create.drop count ∧
    next.update = plan.update.drop (count - plan.create.length) ∧
    next.delete = plan.delete.drop (count - (plan.create.length + plan.update.length)) := by
  let others : Plan :=
    { create := plan.create.drop count
      update := plan.update.drop (count - plan.create.length)
      delete := plan.delete.drop (count - (plan.create.length + plan.update.length))
      unchanged := 0 }
  have sameMutations : next.mutations = others.mutations := by
    rw [same]
    simp [others, mutations, List.drop_append, List.map_drop, Nat.sub_add_eq]
  exact parts_of_mutations sameMutations

private theorem mutations_of_ordered {listing : List Cluster} (distinct : Distinct existing)
    (ordered : Cluster.Ordered listing) (rearranged : listing.Perm existing)
    (updates : Cluster.Ordered (changes config canonical existing).update)
    (deletes : (changes config canonical existing).delete.Pairwise (· < ·)) :
    (changes config canonical listing).mutations =
      (changes config canonical existing).mutations := by
  rw [changes_eq config distinct] at updates deletes ⊢
  rw [changes_eq config ordered.distinct]
  simp only at updates deletes ⊢
  have sameMissing : missing canonical listing = missing canonical existing :=
    missing_of_names (rearranged.map Cluster.name)
  have sameUpdates : listing.filterMap (revision? canonical) =
      existing.filterMap (revision? canonical) := by
    exact Cluster.Ordered.eq_of_perm (pairwise_revisions ordered) updates
      (rearranged.filterMap _)
  have sameDeletes : (listing.filter (isUnwanted canonical)).map Cluster.name =
      (existing.filter (isUnwanted canonical)).map Cluster.name := by
    refine List.Perm.eq_of_pairwise ?_ ?_ deletes ((rearranged.filter _).map _)
    · intro one other _one _other smaller greater
      exact absurd greater (String.lt_asymm smaller)
    · exact List.pairwise_map.mpr (ordered.sublist List.filter_sublist)
  rw [sameMissing, sameUpdates, sameDeletes]
  rfl

end Plan

namespace Revised

variable {config : Config} {canonical : Keyed ClusterSpec} {existing after : List Cluster}
  {made rest : List Mutation}

open Plan (changes settled? Named)

private theorem resumes (revised : Revised made existing after) (distinct : Distinct existing)
    (named : Named canonical)
    (planned : (changes config canonical existing).mutations = made ++ rest) :
    ∃ records, records.Perm after ∧ Distinct records ∧
      (changes config canonical records).mutations = rest ∧
      ∀ target, (settled? config canonical target (named? records target)).map unversioned =
        (settled? config canonical target (named? existing target)).map unversioned := by
  induction revised with
  | @nothing before after rearranged =>
      exact ⟨before, rearranged, distinct, planned, fun _ => rfl⟩
  | @write mutation later before after version _revised ih =>
      have next := Plan.changes_revise distinct named planned version
      obtain ⟨records, same, distinctRecords, others, becomes⟩ :=
        ih (Mutation.distinct_revise _ distinct) next
      refine ⟨records, same, distinctRecords, others, fun target => ?_⟩
      have member : mutation ∈ (changes config canonical before).mutations := by
        rw [planned]
        exact List.mem_cons_self
      rw [becomes target, Plan.settled?_revise distinct named member]

theorem settled?_eq (revised : Revised made existing after) (distinct : Distinct existing)
    (named : Named canonical)
    (planned : (changes config canonical existing).mutations = made ++ rest) (target : String) :
    (settled? config canonical target (named? after target)).map unversioned =
      (settled? config canonical target (named? existing target)).map unversioned := by
  obtain ⟨records, same, distinctRecords, _others, becomes⟩ :=
    revised.resumes distinct named planned
  rw [← Cluster.named?_perm distinctRecords same]
  exact becomes target

theorem settles (revised : Revised (changes config canonical existing).mutations existing after)
    (distinct : Distinct existing) (named : Named canonical) (target : String) :
    settled? config canonical target (named? after target) = named? after target ∧
      (named? after target).map unversioned =
        (settled? config canonical target (named? existing target)).map unversioned := by
  have planned : (changes config canonical existing).mutations =
      (changes config canonical existing).mutations ++ [] := (List.append_nil _).symm
  obtain ⟨records, same, distinctRecords, noOthers, becomes⟩ :=
    revised.resumes distinct named planned
  have untouched :
      target ∉ (changes config canonical records).mutations.map Mutation.name := by
    rw [noOthers]
    exact List.not_mem_nil
  have settled := Plan.settled?_of_not_mem distinctRecords named untouched
  rw [← Cluster.named?_perm distinctRecords same]
  refine ⟨settled, ?_⟩
  rw [← settled]
  exact becomes target

/-- A plan that was applied up to some mutation is followed by the plan that goes on from
there, if the records are listed by name. -/
theorem mutations_eq_drop {count : Nat} {listing : List Cluster}
    (revised : Revised ((changes config canonical existing).mutations.take count) existing after)
    (ordered : Cluster.Ordered existing) (named : Named canonical)
    (listed : listing.Perm after) (listingOrdered : Cluster.Ordered listing) :
    (changes config canonical listing).mutations =
      (changes config canonical existing).mutations.drop count := by
  obtain ⟨records, same, distinctRecords, others, _becomes⟩ :=
    revised.resumes ordered.distinct named (List.take_append_drop count _).symm
  obtain ⟨_creates, updates, deletes⟩ := Plan.parts_of_drop others
  have distinct := ordered.distinct
  rw [← others]
  refine Plan.mutations_of_ordered distinctRecords listingOrdered (listed.trans same.symm) ?_ ?_
  · rw [updates, Plan.changes_eq config distinct]
    exact List.Pairwise.sublist (List.drop_sublist _ _) (Plan.pairwise_revisions ordered)
  · rw [deletes, Plan.changes_eq config distinct]
    refine List.Pairwise.sublist (List.drop_sublist _ _) (List.pairwise_map.mpr ?_)
    exact ordered.sublist List.filter_sublist

end Revised

end ClusterDiscovery

/-
What mutations make of the records of a namespace.

A mutation reaches the record of its own name and no other, so the records after a list of
mutations can be said name by name. The version that a write gives to its record is left
open, and so is the order in which the records are kept.
-/

import ClusterDiscovery.Pass.Apply
import ClusterDiscovery.Proofs.Cluster.Listing

namespace ClusterDiscovery

open Cluster (Distinct named?)

namespace Mutation

/-- The records after a mutation. A create of a known name changes nothing; a record that is
written gets a version. -/
def revise (version : Option String) (records : List Cluster) : Mutation → List Cluster
  | .create cluster =>
      if (named? records cluster.name).isSome then records
      else records ++ [cluster.withVersion version]
  | .update cluster =>
      records.map fun old => if old.name = cluster.name then cluster.withVersion version else old
  | .delete name => records.filter fun old => old.name != name

def outcome (version : Option String) (current : Option Cluster) : Mutation → Option Cluster
  | .create cluster => some (current.getD (cluster.withVersion version))
  | .update cluster => current.map fun _ => cluster.withVersion version
  | .delete _ => none

variable {records : List Cluster} {version : Option String}

theorem revise_create (cluster : Cluster) :
    (create cluster).revise version records =
      if (named? records cluster.name).isSome then records
      else records ++ [cluster.withVersion version] := rfl

theorem revise_update (cluster : Cluster) :
    (update cluster).revise version records =
      records.map fun old =>
        if old.name = cluster.name then cluster.withVersion version else old := rfl

theorem revise_delete (target : String) :
    (delete target).revise version records = records.filter fun old => old.name != target := rfl

private theorem named?_map_update (cluster : Cluster) (target : String) :
    named? (records.map fun old =>
        if old.name = cluster.name then cluster.withVersion version else old) target =
      if target = cluster.name then
        (named? records target).map fun _ => cluster.withVersion version
      else named? records target := by
  induction records with
  | nil => simp [named?]
  | cons head rest ih =>
      unfold named? at ih ⊢
      rw [List.map_cons, List.find?_cons, List.find?_cons, ih]
      by_cases own : head.name = cluster.name
      · by_cases same : target = cluster.name
        · simp [own, same]
        · have other : (cluster.name == target) = false :=
            beq_eq_false_iff_ne.mpr fun equal => same equal.symm
          simp [own, same, other]
      · by_cases same : target = cluster.name
        · have other : (head.name == cluster.name) = false := beq_eq_false_iff_ne.mpr own
          simp [own, same, other]
        · simp [own, same]

private theorem named?_filter_delete (name target : String) :
    named? (records.filter fun old => old.name != name) target =
      if target = name then none else named? records target := by
  unfold named?
  rw [List.find?_filter]
  by_cases same : target = name
  · rw [if_pos same, List.find?_eq_none]
    intro old _member
    simp [same]
  · rw [if_neg same]
    congr 1
    funext old
    cases found : old.name == target with
    | false => simp
    | true =>
        have equal : old.name = target := eq_of_beq found
        simp [equal, same]

theorem named?_revise_self (mutation : Mutation) :
    named? (mutation.revise version records) mutation.name =
      mutation.outcome version (named? records mutation.name) := by
  cases mutation with
  | create cluster =>
      change named? ((create cluster).revise version records) cluster.name =
        some ((named? records cluster.name).getD (cluster.withVersion version))
      rw [revise_create]
      cases found : named? records cluster.name with
      | some old =>
          rw [if_pos (Option.isSome_some ..), Option.getD_some]
          exact found
      | none =>
          rw [if_neg (by simp), Option.getD_none]
          unfold named? at found ⊢
          rw [List.find?_append, found]
          simp
  | update cluster =>
      rw [revise_update, named?_map_update]
      exact if_pos rfl
  | delete target =>
      rw [revise_delete, named?_filter_delete]
      exact if_pos rfl

theorem named?_revise_of_ne {mutation : Mutation} {target : String}
    (different : target ≠ mutation.name) :
    named? (mutation.revise version records) target = named? records target := by
  cases mutation with
  | create cluster =>
      have other : (cluster.name == target) = false :=
        beq_eq_false_iff_ne.mpr fun equal => different equal.symm
      rw [revise_create]
      split
      · rfl
      · unfold named?
        rw [List.find?_append]
        simp [other]
  | update cluster =>
      rw [revise_update, named?_map_update]
      exact if_neg different
  | delete name =>
      rw [revise_delete, named?_filter_delete]
      exact if_neg different

private theorem names_map_update (cluster : Cluster) :
    (records.map fun old =>
        if old.name = cluster.name then cluster.withVersion version else old).map Cluster.name =
      records.map Cluster.name := by
  rw [List.map_map]
  apply List.map_congr_left
  intro old _member
  simp only [Function.comp_apply]
  split
  · rename_i same
    exact same.symm
  · rfl

theorem distinct_revise (mutation : Mutation) (distinct : Distinct records) :
    Distinct (mutation.revise version records) := by
  cases mutation with
  | create cluster =>
      rw [revise_create]
      split
      · exact distinct
      · rename_i absent
        have fresh : cluster.name ∉ records.map Cluster.name := by
          rw [← Cluster.named?_eq_none_iff]
          exact Option.not_isSome_iff_eq_none.mp absent
        unfold Distinct
        rw [List.map_append, List.map_singleton, Cluster.name_withVersion]
        exact List.nodup_append.mpr ⟨distinct, List.pairwise_singleton _ _, by
          intro first member second alone same
          rw [same, List.mem_singleton.mp alone] at member
          exact fresh member⟩
  | update cluster =>
      rw [revise_update]
      unfold Distinct
      rw [names_map_update]
      exact distinct
  | delete name => exact List.Nodup.sublist (List.filter_sublist.map _) distinct

theorem revise_perm (mutation : Mutation) {others : List Cluster}
    (rearranged : records.Perm others) :
    (mutation.revise version records).Perm (mutation.revise version others) := by
  cases mutation with
  | create cluster =>
      have same : (named? records cluster.name).isSome = (named? others cluster.name).isSome := by
        rw [Bool.eq_iff_iff, Option.isSome_iff_ne_none, Option.isSome_iff_ne_none, ne_eq, ne_eq,
          Cluster.named?_eq_none_iff, Cluster.named?_eq_none_iff,
          (rearranged.map Cluster.name).mem_iff]
      rw [revise_create, revise_create, same]
      split
      · exact rearranged
      · exact rearranged.append_right _
  | update cluster => exact rearranged.map _
  | delete name => exact rearranged.filter _

end Mutation

/-- The records after a list of mutations, each with some version, in any order. -/
inductive Revised : List Mutation → List Cluster → List Cluster → Prop where
  | nothing {before after : List Cluster} (rearranged : before.Perm after) :
      Revised [] before after
  | write {mutation : Mutation} {rest : List Mutation} {before after : List Cluster}
      (version : Option String) (later : Revised rest (mutation.revise version before) after) :
      Revised (mutation :: rest) before after

namespace Revised

variable {mutations : List Mutation} {before after : List Cluster}

theorem distinct (revised : Revised mutations before after) (h : Distinct before) :
    Distinct after := by
  induction revised with
  | nothing rearranged => exact h.perm rearranged
  | write version later ih => exact ih (Mutation.distinct_revise _ h)

theorem perm_left {others : List Cluster} (revised : Revised mutations before after)
    (rearranged : before.Perm others) : Revised mutations others after := by
  induction revised generalizing others with
  | nothing same => exact .nothing (rearranged.symm.trans same)
  | write version later ih => exact .write version (ih (Mutation.revise_perm _ rearranged))

end Revised

end ClusterDiscovery

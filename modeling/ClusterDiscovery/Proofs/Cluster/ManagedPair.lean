/-
The managed pair of a record.

The flag and the label of the pair belong together. Setting the pair changes both and
nothing else; a new specification changes neither.
-/

import ClusterDiscovery.Proofs.Cluster.Listing
import ClusterDiscovery.Proofs.Keyed

namespace ClusterDiscovery

namespace Metadata

theorem label?_setLabel_self (metadata : Metadata) (key value : String) :
    (metadata.setLabel key value).label? key = some value :=
  Keyed.get?_insert_self _ key value

theorem label?_setLabel_of_ne (metadata : Metadata) {key other : String} (value : String)
    (different : other ≠ key) :
    (metadata.setLabel key value).label? other = metadata.label? other := by
  unfold setLabel label?
  cases metadata.labels with
  | none => exact Keyed.get?_insert_of_ne _ different value
  | some labels => exact Keyed.get?_insert_of_ne _ different value

theorem label?_removeLabel_self (metadata : Metadata) (key : String) :
    (metadata.removeLabel key).label? key = none := by
  unfold removeLabel label?
  cases metadata.labels with
  | none => rfl
  | some labels => exact Keyed.get?_erase_self labels key

theorem label?_removeLabel_of_ne (metadata : Metadata) {key other : String}
    (different : other ≠ key) :
    (metadata.removeLabel key).label? other = metadata.label? other := by
  unfold removeLabel label?
  cases metadata.labels with
  | none => rfl
  | some labels => exact Keyed.get?_erase_of_ne labels different

end Metadata

namespace Cluster

/-- The flag is set exactly when the label is. -/
def Paired (cluster : Cluster) : Prop := cluster.spec.isManaged = cluster.hasManagedLabel

/-- A record is another one up to its managed pair and its version. -/
structure SameButManaged (old record : Cluster) : Prop where
  metadata : ∃ labels version,
    record.metadata = { old.metadata with labels := labels, resourceVersion := version }
  labels : ∀ key, key ≠ managedLabel → record.metadata.label? key = old.metadata.label? key
  spec : ∃ managed, record.spec = { old.spec with isManaged := managed }

theorem sameButManaged_refl (cluster : Cluster) : SameButManaged cluster cluster :=
  ⟨⟨_, _, rfl⟩, fun _ _ => rfl, ⟨_, rfl⟩⟩

theorem sameButManaged_setManaged (cluster : Cluster) (managed : Bool)
    (version : Option String) :
    SameButManaged cluster ((cluster.setManaged managed).withVersion version) := by
  cases managed with
  | true =>
      refine ⟨⟨_, _, rfl⟩, ?_, ⟨_, rfl⟩⟩
      intro key different
      exact Metadata.label?_setLabel_of_ne _ _ different
  | false =>
      refine ⟨⟨_, _, rfl⟩, ?_, ⟨_, rfl⟩⟩
      intro key different
      exact Metadata.label?_removeLabel_of_ne _ different

theorem paired_setManaged (cluster : Cluster) (managed : Bool) (version : Option String) :
    ((cluster.setManaged managed).withVersion version).Paired := by
  cases managed with
  | true =>
      change true = ((cluster.metadata.setLabel managedLabel "true").label? managedLabel ==
        some "true")
      rw [Metadata.label?_setLabel_self]
      rfl
  | false =>
      change false = ((cluster.metadata.removeLabel managedLabel).label? managedLabel ==
        some "true")
      rw [Metadata.label?_removeLabel_self]
      rfl

theorem Paired.congr {first second : Cluster} (paired : first.Paired)
    (sameFlag : second.spec.isManaged = first.spec.isManaged)
    (sameLabels : second.metadata.labels = first.metadata.labels) : second.Paired := by
  unfold Paired hasManagedLabel Metadata.label? at *
  rw [sameFlag, sameLabels]
  exact paired

theorem paired_of_unlabelled {cluster : Cluster} (unlabelled : cluster.metadata.labels = none)
    (unmanaged : cluster.spec.isManaged = false) : cluster.Paired := by
  unfold Paired hasManagedLabel Metadata.label?
  rw [unlabelled, unmanaged]
  rfl

end Cluster

end ClusterDiscovery

/-
Records and lists of records.

A record is known by its name among the records of its namespace, and a write gives it a
version that says nothing about its content. In a list whose names are distinct a name has
one record, whatever the order of the list.
-/

import ClusterDiscovery.Cluster.Basic

namespace ClusterDiscovery

namespace ClusterSpec

theorem sameAs_refl (spec : ClusterSpec) : spec.sameAs spec = true := by
  simp [sameAs, sameSecond]

theorem sameAs_withManaged (spec : ClusterSpec) (managed : Bool) :
    spec.sameAs { spec with isManaged := managed } = true :=
  sameAs_refl spec

end ClusterSpec

namespace Cluster

def withVersion (cluster : Cluster) (version : Option String) : Cluster :=
  { cluster with metadata := { cluster.metadata with resourceVersion := version } }

def unversioned (cluster : Cluster) : Cluster := cluster.withVersion none

@[simp] theorem name_withVersion (cluster : Cluster) (version : Option String) :
    (cluster.withVersion version).name = cluster.name := rfl

@[simp] theorem withVersion_self (cluster : Cluster) :
    cluster.withVersion cluster.metadata.resourceVersion = cluster := rfl

@[simp] theorem unversioned_withVersion (cluster : Cluster) (version : Option String) :
    (cluster.withVersion version).unversioned = cluster.unversioned := rfl

@[simp] theorem name_unversioned (cluster : Cluster) :
    cluster.unversioned.name = cluster.name := rfl

@[simp] theorem name_withSpec (cluster : Cluster) (desired : ClusterSpec) :
    (cluster.withSpec desired).name = cluster.name := rfl

@[simp] theorem name_ownedBy (config : Config) (spec : ClusterSpec) :
    (ownedBy config spec).name = spec.name := rfl

theorem space_ownedBy {config : Config} {space : String} (spec : ClusterSpec)
    (inSpace : config.metadata.space = some space) : (ownedBy config spec).space = space := by
  change config.metadata.space.getD "" = space
  rw [inSpace]
  rfl

/-- No two records of a list share a name. -/
def Distinct (records : List Cluster) : Prop := (records.map name).Nodup

instance (records : List Cluster) : Decidable (Distinct records) :=
  inferInstanceAs (Decidable (List.Nodup _))

def Ordered (records : List Cluster) : Prop :=
  records.Pairwise fun first second => first.name < second.name

theorem Ordered.distinct {records : List Cluster} (ordered : Ordered records) :
    Distinct records := by
  refine List.pairwise_map.mpr (ordered.imp ?_)
  intro first second smaller same
  rw [same] at smaller
  exact String.lt_irrefl _ smaller

theorem Ordered.eq_of_perm {first second : List Cluster} (ordered : Ordered first)
    (alsoOrdered : Ordered second) (rearranged : first.Perm second) : first = second := by
  refine List.Perm.eq_of_pairwise ?_ ordered alsoOrdered rearranged
  intro one other _one _other smaller greater
  exact absurd greater (String.lt_asymm smaller)

def named? (records : List Cluster) (target : String) : Option Cluster :=
  records.find? fun cluster => cluster.name == target

theorem named?_eq_none_iff {records : List Cluster} {target : String} :
    named? records target = none ↔ target ∉ records.map name := by
  unfold named?
  rw [List.find?_eq_none]
  simp

theorem name_of_named? {records : List Cluster} {target : String} {cluster : Cluster}
    (found : named? records target = some cluster) : cluster.name = target := by
  unfold named? at found
  have test := List.find?_some found
  exact eq_of_beq test

theorem mem_of_named? {records : List Cluster} {target : String} {cluster : Cluster}
    (found : named? records target = some cluster) : cluster ∈ records :=
  List.mem_of_find?_eq_some found

theorem named?_of_mem {records : List Cluster} (distinct : Distinct records)
    {cluster : Cluster} (member : cluster ∈ records) :
    named? records cluster.name = some cluster := by
  induction records with
  | nil => cases member
  | cons head rest ih =>
      obtain ⟨absent, distinctRest⟩ := List.nodup_cons.mp distinct
      unfold named?
      rw [List.find?_cons]
      rcases List.mem_cons.mp member with same | later
      · subst same
        simp
      · have different : (head.name == cluster.name) = false := by
          rw [beq_eq_false_iff_ne]
          intro same
          exact absent (List.mem_map.mpr ⟨cluster, later, same.symm⟩)
        rw [different]
        exact ih distinctRest later

theorem named?_eq_some_iff {records : List Cluster} (distinct : Distinct records)
    {target : String} {cluster : Cluster} :
    named? records target = some cluster ↔ cluster ∈ records ∧ cluster.name = target := by
  constructor
  · intro found
    exact ⟨mem_of_named? found, name_of_named? found⟩
  · rintro ⟨member, same⟩
    rw [← same]
    exact named?_of_mem distinct member

theorem Distinct.perm {first second : List Cluster} (distinct : Distinct first)
    (rearranged : first.Perm second) : Distinct second :=
  (rearranged.map name).nodup distinct

theorem named?_perm {first second : List Cluster} (distinct : Distinct first)
    (rearranged : first.Perm second) (target : String) :
    named? first target = named? second target := by
  apply Option.ext
  intro cluster
  rw [named?_eq_some_iff distinct, named?_eq_some_iff (distinct.perm rearranged),
    rearranged.mem_iff]

theorem Distinct.nodup_unversioned {records : List Cluster} (distinct : Distinct records) :
    (records.map unversioned).Nodup := by
  have ownNames : ((records.map unversioned).map name).Nodup := by
    rw [List.map_map]
    exact distinct
  refine (List.pairwise_map.mp ownNames).imp ?_
  intro first second different same
  exact different (congrArg name same)

theorem perm_unversioned {first second : List Cluster} (distinctFirst : Distinct first)
    (distinctSecond : Distinct second)
    (agree : ∀ target, (named? first target).map unversioned =
      (named? second target).map unversioned) :
    (first.map unversioned).Perm (second.map unversioned) := by
  have included {one other : List Cluster} (distinct : Distinct one)
      (same : ∀ target, (named? one target).map unversioned =
        (named? other target).map unversioned)
      {cluster : Cluster} (member : cluster ∈ one.map unversioned) :
      cluster ∈ other.map unversioned := by
    obtain ⟨record, present, rfl⟩ := List.mem_map.mp member
    have found := same record.name
    rw [named?_of_mem distinct present] at found
    obtain ⟨counterpart, hasName, equal⟩ := Option.map_eq_some_iff.mp found.symm
    exact List.mem_map.mpr ⟨counterpart, mem_of_named? hasName, equal⟩
  rw [List.perm_ext_iff_of_nodup distinctFirst.nodup_unversioned
    distinctSecond.nodup_unversioned]
  intro cluster
  constructor
  · exact included distinctFirst agree
  · exact included distinctSecond fun target => (agree target).symm

end Cluster

end ClusterDiscovery

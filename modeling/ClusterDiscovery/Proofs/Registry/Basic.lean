/-
A registry of records with versions.

Every write gives a version that was never given before. A replacement and a managed pair
are written only over the version they carry; a create of a known name succeeds and changes
nothing; a delete looks at no version. Any call may fail, and then it changes nothing.
-/

import ClusterDiscovery.Effect.Basic
import ClusterDiscovery.Proofs.Cluster.ManagedPair
import Mathlib.Data.List.Nodup

namespace ClusterDiscovery

def Cluster.key (cluster : Cluster) : String × String := (cluster.space, cluster.name)

def Cluster.within (space : String) (records : List Cluster) : List Cluster :=
  records.filter fun record => record.space == space

theorem Cluster.space_of_mem_within {space : String} {records : List Cluster}
    {record : Cluster} (member : record ∈ within space records) : record.space = space :=
  eq_of_beq (List.mem_filter.mp member).2

theorem Cluster.distinct_within {records : List Cluster} (distinct : (records.map key).Nodup)
    (space : String) : Distinct (within space records) := by
  have apart : (within space records).Pairwise fun first second => first.key ≠ second.key :=
    (List.pairwise_map.mp distinct).sublist List.filter_sublist
  refine List.pairwise_map.mpr (apart.imp_of_mem ?_)
  intro first second isFirst isSecond different sameName
  have sameSpace : first.space = second.space :=
    (space_of_mem_within isFirst).trans (space_of_mem_within isSecond).symm
  exact different (Prod.ext sameSpace sameName)

theorem Cluster.key_setManaged (cluster : Cluster) (managed : Bool) :
    (cluster.setManaged managed).key = cluster.key := by
  cases managed <;> rfl

def Cluster.version? (cluster : Cluster) : Option String := cluster.metadata.resourceVersion

def Effect.concernsRecords : Effect → Bool
  | .cluster (.listRecords _) => true
  | .cluster .listAllRecords => true
  | .cluster (.createRecord _) => true
  | .cluster (.replaceRecord _) => true
  | .cluster (.deleteRecord _ _) => true
  | .cluster (.setManaged _ _) => true
  | _ => false

structure Registry where
  records : List Cluster
  issued : List String

namespace Registry

def keys (registry : Registry) : List (String × String) := registry.records.map Cluster.key

def put (registry : Registry) (record : Cluster) (version : String) : Registry where
  records := registry.records.map fun old =>
    if old.key = record.key then record.withVersion (some version) else old
  issued := version :: registry.issued

/-- Keys are distinct, and every record carries a version that was given. -/
structure Sound (registry : Registry) : Prop where
  distinct : registry.keys.Nodup
  versioned : ∀ record ∈ registry.records,
    ∃ version ∈ registry.issued, record.version? = some version

/-- How the registry may answer an effect, and what becomes of it. -/
inductive Answers (registry : Registry) :
    (effect : Effect) → effect.Answer → Registry → Prop where
  | failed {call : ClusterCall} (failure : Failure) :
      Answers registry (.cluster call) (Except.error failure) registry
  | listed {space : String} {listing : List Cluster}
      (shown : listing.Perm (registry.records.filter fun record => record.space == space)) :
      Answers registry (.cluster (.listRecords space)) (Except.ok listing) registry
  | listedAll {listing : List Cluster} (shown : listing.Perm registry.records) :
      Answers registry (.cluster .listAllRecords) (Except.ok listing) registry
  | created {cluster : Cluster} {version : String} (free : cluster.key ∉ registry.keys)
      (fresh : version ∉ registry.issued) :
      Answers registry (.cluster (.createRecord cluster)) (Except.ok ())
        ⟨registry.records ++ [cluster.withVersion (some version)], version :: registry.issued⟩
  | existed {cluster : Cluster} (taken : cluster.key ∈ registry.keys) :
      Answers registry (.cluster (.createRecord cluster)) (Except.ok ()) registry
  | replaced {cluster current : Cluster} {version : String}
      (present : current ∈ registry.records) (sameKey : current.key = cluster.key)
      (sameVersion : current.version? = cluster.version?) (fresh : version ∉ registry.issued) :
      Answers registry (.cluster (.replaceRecord cluster)) (Except.ok ())
        (registry.put cluster version)
  | deleted {space name : String} :
      Answers registry (.cluster (.deleteRecord space name)) (Except.ok ())
        ⟨registry.records.filter fun record => record.key ≠ (space, name), registry.issued⟩
  | marked {cluster current : Cluster} {managed : Bool} {version : String}
      (present : current ∈ registry.records) (sameKey : current.key = cluster.key)
      (sameVersion : current.version? = cluster.version?) (fresh : version ∉ registry.issued) :
      Answers registry (.cluster (.setManaged cluster managed)) (Except.ok ())
        (registry.put (current.setManaged managed) version)
  | unrelated {effect : Effect} (answer : effect.Answer)
      (outside : effect.concernsRecords = false) : Answers registry effect answer registry

/-- What was seen of the registry still says what it said: a record under the key of one
that was seen, with its version, is that one. -/
def Knows (registry : Registry) (known : List Cluster) : Prop :=
  ∀ seen ∈ known, (∃ version ∈ registry.issued, seen.version? = some version) ∧
    ∀ current ∈ registry.records, current.key = seen.key →
      current.version? = seen.version? → current = seen

def shown : Except Failure (List Cluster) → List Cluster
  | .ok listing => listing
  | .error _ => []

def snapshot (known : List Cluster) : (effect : Effect) → effect.Answer → List Cluster
  | .cluster (.listRecords _), answer => shown answer ++ known
  | .cluster .listAllRecords, answer => shown answer ++ known
  | _, _ => known

variable {registry next : Registry}

theorem keys_put (record : Cluster) (version : String) :
    (registry.put record version).keys = registry.keys := by
  unfold keys put
  rw [List.map_map]
  apply List.map_congr_left
  intro old _member
  simp only [Function.comp_apply]
  split
  · rename_i same
    exact same.symm
  · rfl

theorem mem_put {record current : Cluster} {version : String}
    (member : current ∈ (registry.put record version).records) :
    current = record.withVersion (some version) ∨
      current ∈ registry.records ∧ current.key ≠ record.key := by
  obtain ⟨old, present, same⟩ := List.mem_map.mp member
  split at same
  · exact Or.inl same.symm
  · rename_i different
    rw [← same]
    exact Or.inr ⟨present, different⟩

theorem Sound.eq_of_key {first second : Cluster} (sound : registry.Sound)
    (isFirst : first ∈ registry.records) (isSecond : second ∈ registry.records)
    (sameKey : first.key = second.key) : first = second :=
  List.inj_on_of_nodup_map sound.distinct isFirst isSecond sameKey

theorem Sound.put (sound : registry.Sound) (record : Cluster) (version : String) :
    (registry.put record version).Sound where
  distinct := by
    rw [keys_put]
    exact sound.distinct
  versioned := by
    intro current member
    rcases mem_put member with rfl | ⟨old, _different⟩
    · exact ⟨version, List.mem_cons_self, rfl⟩
    · obtain ⟨given, wasIssued, same⟩ := sound.versioned current old
      exact ⟨given, List.mem_cons_of_mem _ wasIssued, same⟩

theorem Knows.put {known : List Cluster} (knows : registry.Knows known) (record : Cluster)
    {version : String} (fresh : version ∉ registry.issued) :
    (registry.put record version).Knows known := by
  intro seen member
  obtain ⟨⟨given, wasIssued, own⟩, authentic⟩ := knows seen member
  refine ⟨⟨given, List.mem_cons_of_mem _ wasIssued, own⟩, ?_⟩
  intro current present sameKey sameVersion
  rcases mem_put present with rfl | ⟨old, _different⟩
  · rw [own] at sameVersion
    have given : version = given := Option.some.inj sameVersion
    exact absurd wasIssued (given ▸ fresh)
  · exact authentic current old sameKey sameVersion

theorem snapshot_of_unrelated {effect : Effect} (known : List Cluster) (answer : effect.Answer)
    (outside : effect.concernsRecords = false) : snapshot known effect answer = known := by
  cases effect with
  | cluster call => cases call <;> first | rfl | cases outside
  | _ => rfl

theorem Sound.knows {records : List Cluster} (sound : registry.Sound)
    (included : ∀ record ∈ records, record ∈ registry.records) : registry.Knows records := by
  intro seen member
  have present := included seen member
  refine ⟨sound.versioned seen present, ?_⟩
  intro current isCurrent sameKey _sameVersion
  exact sound.eq_of_key isCurrent present sameKey

theorem Knows.append {first second : List Cluster} (knowsFirst : registry.Knows first)
    (knowsSecond : registry.Knows second) : registry.Knows (first ++ second) := by
  intro seen member
  rcases List.mem_append.mp member with inFirst | inSecond
  · exact knowsFirst seen inFirst
  · exact knowsSecond seen inSecond

namespace Answers

variable {effect : Effect} {answer : effect.Answer} {known : List Cluster}

theorem sound (answers : registry.Answers effect answer next) (h : registry.Sound) :
    next.Sound := by
  cases answers with
  | failed | listed | listedAll | existed | unrelated => exact h
  | @created cluster version free fresh =>
      refine ⟨?_, ?_⟩
      · unfold keys
        rw [List.map_append, List.map_singleton]
        refine List.nodup_append.mpr ⟨h.distinct, List.pairwise_singleton _ _, ?_⟩
        intro first member second alone same
        rw [same, List.mem_singleton.mp alone] at member
        exact free member
      · intro record member
        rcases List.mem_append.mp member with old | new
        · obtain ⟨given, wasIssued, own⟩ := h.versioned record old
          exact ⟨given, List.mem_cons_of_mem _ wasIssued, own⟩
        · rw [List.mem_singleton.mp new]
          exact ⟨version, List.mem_cons_self, rfl⟩
  | replaced | marked => exact h.put _ _
  | deleted =>
      refine ⟨?_, ?_⟩
      · exact List.Nodup.sublist (List.filter_sublist.map _) h.distinct
      · intro record member
        exact h.versioned record (List.mem_of_mem_filter member)

theorem knows (answers : registry.Answers effect answer next) (h : registry.Knows known) :
    next.Knows known := by
  cases answers with
  | failed | listed | listedAll | existed | unrelated => exact h
  | @created cluster version free fresh =>
      intro seen member
      obtain ⟨⟨given, wasIssued, own⟩, authentic⟩ := h seen member
      refine ⟨⟨given, List.mem_cons_of_mem _ wasIssued, own⟩, ?_⟩
      intro current present sameKey sameVersion
      rcases List.mem_append.mp present with old | new
      · exact authentic current old sameKey sameVersion
      · rw [List.mem_singleton.mp new, own] at sameVersion
        have same : version = given := Option.some.inj sameVersion
        exact absurd wasIssued (same ▸ fresh)
  | replaced present sameKey sameVersion fresh => exact h.put _ fresh
  | marked present sameKey sameVersion fresh => exact h.put _ fresh
  | deleted =>
      intro seen member
      obtain ⟨issued, authentic⟩ := h seen member
      exact ⟨issued, fun current present => authentic current (List.mem_of_mem_filter present)⟩

theorem knows_snapshot (answers : registry.Answers effect answer next) (sound : registry.Sound)
    (h : registry.Knows known) : next.Knows (snapshot known effect answer) := by
  cases answers with
  | @failed call failure => cases call <;> exact h
  | listed shown =>
      refine Knows.append (sound.knows fun record member => ?_) h
      exact List.mem_of_mem_filter (shown.mem_iff.mp member)
  | listedAll shown =>
      refine Knows.append (sound.knows fun record member => ?_) h
      exact shown.mem_iff.mp member
  | existed => exact h
  | unrelated answer outside =>
      rw [snapshot_of_unrelated known answer outside]
      exact h
  | created free fresh => exact (Answers.created free fresh).knows h
  | replaced present sameKey sameVersion fresh =>
      exact (Answers.replaced present sameKey sameVersion fresh).knows h
  | marked present sameKey sameVersion fresh =>
      exact (Answers.marked present sameKey sameVersion fresh).knows h
  | @deleted space name =>
      have again : registry.Answers (.cluster (.deleteRecord space name)) (Except.ok ()) _ :=
        .deleted
      exact again.knows h

end Answers

end Registry

end ClusterDiscovery

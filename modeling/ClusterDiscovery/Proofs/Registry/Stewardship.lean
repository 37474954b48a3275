/-
Stewardship of a namespace.

The records of a namespace are made by its configuration and marked by the overlay. If
there were none at first, then every record that is there later shows an admissible
subscription and names the configuration as its owner, whatever became of the configuration
meanwhile, whatever the passes were answered and wherever they stopped.
-/

import ClusterDiscovery.Proofs.Inventory.Console
import ClusterDiscovery.Proofs.Registry.Interleaving

namespace ClusterDiscovery

namespace Subscription

theorem clusterType_ne (planId : String) :
    clusterType planId ≠ "MOA" ∧ clusterType planId ≠ "MOA-HostedControlPlane" := by
  unfold clusterType
  by_cases legacy : planId = "MOA" ∨ planId = "MOA-HostedControlPlane"
  · rw [if_pos legacy]
    decide
  · rw [if_neg legacy]
    exact not_or.mp legacy

end Subscription

/-- A specification that fits a record of a namespace: its cluster has one id, is in use, and
is shown under a name. -/
structure ClusterSpec.Presentable (space : String) (spec : ClusterSpec) : Prop where
  clusterId : spec.clusterId = spec.name
  identified : spec.name ≠ ""
  credential : spec.credential.space = space
  status : spec.status ≠ "Archived" ∧ spec.status ≠ "Deprovisioned" ∧ spec.status ≠ "Reserved"
  clusterType : spec.clusterType ≠ "MOA" ∧ spec.clusterType ≠ "MOA-HostedControlPlane"
  displayName : spec.displayName ≠ ""

theorem Inventory.Yields.presentable {filter : Filter} {credential : CredentialRef}
    {spec : ClusterSpec} (yields : Yields filter credential spec) :
    spec.Presentable credential.space := by
  obtain ⟨_cutoff, subscription, admissible, describes⟩ := yields.describes
  refine ⟨?_, ?_, ?_, ?_, ?_, ?_⟩
  · rw [describes.clusterId, describes.name]
  · rw [describes.name]
    exact admissible.identified
  · rw [describes.credential]
  · rw [describes.status]
    exact admissible.status
  · rw [describes.clusterType]
    exact Subscription.clusterType_ne _
  · rw [describes.displayName]
    exact Subscription.shownName_ne admissible.identified

structure Config.Stewards (uid space : String) (config : Config) : Prop where
  named : config.metadata.name = some conventionalName
  uid : config.metadata.uid = some uid
  located : config.metadata.space = some space

/-- A record of a namespace as its configuration makes it and keeps it. -/
structure Cluster.Stewarded (uid space : String) (cluster : Cluster) : Prop where
  named : cluster.metadata.name = some cluster.spec.name
  located : cluster.metadata.space = some space
  owned : cluster.metadata.ownerReferences = some
    [⟨discoveryApiVersion, Config.kind, Config.conventionalName, uid, some true, some true⟩]
  presentable : cluster.spec.Presentable space
  paired : cluster.Paired

namespace Cluster

variable {uid space : String} {cluster : Cluster} {config : Config} {spec : ClusterSpec}

theorem Stewarded.withVersion (stewarded : cluster.Stewarded uid space)
    (version : Option String) : (cluster.withVersion version).Stewarded uid space :=
  ⟨stewarded.named, stewarded.located, stewarded.owned, stewarded.presentable,
    stewarded.paired.congr rfl rfl⟩

theorem Stewarded.setManaged (stewarded : cluster.Stewarded uid space) (managed : Bool) :
    (cluster.setManaged managed).Stewarded uid space := by
  have paired : (cluster.setManaged managed).Paired :=
    cluster.paired_setManaged managed (cluster.setManaged managed).metadata.resourceVersion
  obtain ⟨named, located, owned, presentable, _paired⟩ := stewarded
  obtain ⟨clusterId, identified, credential, status, clusterType, displayName⟩ := presentable
  cases managed <;>
    exact ⟨named, located, owned,
      ⟨clusterId, identified, credential, status, clusterType, displayName⟩, paired⟩

theorem Stewarded.withSpec (stewarded : cluster.Stewarded uid space)
    (presentable : spec.Presentable space) (sameName : spec.name = cluster.name) :
    (cluster.withSpec spec).Stewarded uid space := by
  refine ⟨?_, stewarded.located, stewarded.owned, ?_, stewarded.paired.congr rfl rfl⟩
  · have known : cluster.name = cluster.spec.name := by
      unfold name Metadata.knownName
      rw [stewarded.named]
      rfl
    change cluster.metadata.name = some spec.name
    rw [stewarded.named, sameName, known]
  · obtain ⟨clusterId, identified, credential, status, clusterType, displayName⟩ := presentable
    exact ⟨clusterId, identified, credential, status, clusterType, displayName⟩

theorem stewarded_ownedBy (stewards : config.Stewards uid space)
    (presentable : spec.Presentable space) (unmanaged : spec.isManaged = false) :
    (ownedBy config spec).Stewarded uid space := by
  refine ⟨rfl, stewards.located, ?_, presentable, paired_of_unlabelled rfl unmanaged⟩
  change config.ownerReference?.map (fun owner => [owner]) = _
  unfold Config.ownerReference?
  rw [stewards.named, stewards.uid]
  rfl

end Cluster

namespace Loop

/-- What a pass may do where records are stewarded, given what it has listed. -/
def tends (uid space : String) : Loop → List Cluster → Effect → Prop
  | .discovery, _, .cluster (.createRecord cluster) => cluster.Stewarded uid space
  | .discovery, known, .cluster (.replaceRecord cluster) =>
      ∃ seen ∈ known, ∃ desired, desired.Presentable space ∧ desired.name = seen.name ∧
        cluster = seen.withSpec desired
  | loop, known, effect => loop.permits known effect

def stewardship (uid space : String) (loop : Loop) : Discipline (List Cluster) where
  permits := loop.tends uid space
  learns := Registry.snapshot
  stops _ := True

end Loop

variable {uid space : String}

theorem Pass.suits_stewardship {config : Config} (stewards : config.Stewards uid space) :
    Suits config space (Loop.discovery.stewardship uid space) where
  learns := rfl
  stops := fun _ => trivial
  reads := by
    intro known effect unchanging
    cases effect with
    | cluster call => cases call <;> trivial
    | _ => trivial
  creates := by
    intro known spec yields
    obtain ⟨_cutoff, _subscription, _admissible, describes⟩ := yields.describes
    exact Cluster.stewarded_ownedBy stewards yields.presentable describes.unmanaged
  replaces := fun _ seen listed desired yields sameName =>
    ⟨seen, listed, desired, yields.presentable, sameName, rfl⟩
  deletes := fun _ _ => trivial

namespace Registry

variable {registry next : Registry}

def Stewarded (uid space : String) (registry : Registry) : Prop :=
  ∀ record ∈ registry.records, record.space = space → record.Stewarded uid space

/-- One call keeps the records of a namespace as they should be. -/
theorem Answers.stewarded {effect : Effect} {answer : effect.Answer} {loop : Loop}
    {known : List Cluster} (answers : registry.Answers effect answer next)
    (knows : registry.Knows known) (permitted : loop.tends uid space known effect)
    (stewarded : registry.Stewarded uid space) : next.Stewarded uid space := by
  intro record present inSpace
  cases answers with
  | failed | listed | listedAll | existed | unrelated => exact stewarded record present inSpace
  | @created cluster version free fresh =>
      rcases List.mem_append.mp present with old | new
      · exact stewarded record old inSpace
      · rw [List.mem_singleton.mp new]
        cases loop with
        | discovery => exact Cluster.Stewarded.withVersion permitted _
        | overlay => exact permitted.elim
  | @replaced cluster current version isCurrent sameKey sameVersion fresh =>
      rcases mem_put present with rfl | ⟨old, _different⟩
      · cases loop with
        | discovery =>
            obtain ⟨seen, wasListed, desired, presentable, sameName, rfl⟩ := permitted
            have same : current = seen :=
              (knows seen wasListed).2 current isCurrent sameKey sameVersion
            subst same
            have before := stewarded current isCurrent inSpace
            exact (before.withSpec presentable sameName).withVersion _
        | overlay => exact permitted.elim
      · exact stewarded record old inSpace
  | deleted => exact stewarded record (List.mem_of_mem_filter present) inSpace
  | @marked cluster current managed version isCurrent sameKey sameVersion fresh =>
      rcases mem_put present with rfl | ⟨old, _different⟩
      · have sameSpace : current.space = space := by
          cases managed <;> exact inSpace
        exact ((stewarded current isCurrent sameSpace).setManaged managed).withVersion _
      · exact stewarded record old inSpace

end Registry

inductive Worker.Tends (uid space : String) : Worker → Prop where
  | discovery (settings : Settings) {config : Config} (stewards : config.Stewards uid space) :
      Tends uid space ⟨.discovery, ExceptT.run (Pass.run settings config space)⟩
  | overlay : Tends uid space ⟨.overlay, Overlay.pass⟩

namespace System

/-- Where one configuration has a namespace to itself: a pass of it or of the overlay begins,
or one goes on. -/
inductive Tended (uid space : String) : System → System → Prop where
  | begins {system : System} {worker : Worker} (fresh : worker.Tends uid space) :
      Tended uid space system { system with workers := worker :: system.workers }
  | acts {loop : Loop} {effect : Effect} {system next : System}
      (performed : Acts loop effect system next) : Tended uid space system next

theorem tended_of_works {system next : System} (path : Relation.ReflTransGen Works system next) :
    Relation.ReflTransGen (Tended uid space) system next :=
  Relation.ReflTransGen.mono (fun _ _ ⟨_, _, performed⟩ => .acts performed) _ _ path

theorem obeys_of_tends {worker : Worker} (fresh : worker.Tends uid space) :
    worker.rest.Obeys (worker.loop.stewardship uid space) (fun _ _ => True) [] := by
  cases fresh with
  | discovery settings stewards =>
      exact ((Pass.suits_stewardship stewards).run_obeys []).program
  | overlay => exact Overlay.pass_obeys []

structure Kept (uid space : String) (system : System) : Prop where
  sound : system.registry.Sound
  heeds : Heeds (Loop.stewardship uid space) system
  stewarded : system.registry.Stewarded uid space

variable {initial system next : System}

theorem Tended.kept (step : Tended uid space system next) (kept : system.Kept uid space) :
    next.Kept uid space := by
  obtain ⟨sound, heeds, stewarded⟩ := kept
  cases step with
  | begins fresh => exact ⟨sound, heeds.begins (obeys_of_tends fresh), stewarded⟩
  | acts performed =>
      obtain ⟨known, answer, knows, permitted, answers⟩ := heeds.permitted performed
      exact ⟨performed.sound sound, heeds.acts (fun _ => rfl) sound performed,
        answers.stewarded knows permitted stewarded⟩

/-- The records of a namespace that was empty at first are those of its configuration, each
as it should be, and no two of them share a name. -/
theorem stewarded_of_reachable (sound : initial.registry.Sound) (idle : initial.workers = [])
    (vacant : ∀ record ∈ initial.registry.records, record.space ≠ space)
    (reachable : Relation.ReflTransGen (Tended uid space) initial system) :
    (∀ record ∈ system.registry.records, record.space = space →
      record.Stewarded uid space) ∧
    Cluster.Distinct (Cluster.within space system.registry.records) := by
  have kept : system.Kept uid space := by
    induction reachable with
    | refl =>
        refine ⟨sound, ?_, fun record present inSpace => absurd inSpace (vacant record present)⟩
        intro worker member
        rw [idle] at member
        cases member
    | tail _earlier step ih => exact step.kept ih
  exact ⟨kept.stewarded, Cluster.distinct_within kept.sound.distinct space⟩

section Sample

private def scanned : System :=
  turns (Sample.registering ["b"] []) ⟨⟨[], []⟩,
    [⟨.discovery, ExceptT.run (Pass.run .standard Sample.config "ns")⟩]⟩ (List.replicate 8 0)

/-- A pass of a configuration makes the first record of its namespace. -/
theorem stewarded_of_reachable_sample :
    ∃ system, Relation.ReflTransGen (Tended "uid" "ns") ⟨⟨[], []⟩, []⟩ system ∧
      ∃ record ∈ system.registry.records, record.name = "b" ∧ record.Stewarded "uid" "ns" := by
  have made : (scanned.registry.records.any fun record =>
      record.space == "ns" && record.name == "b") = true := by
    decide +kernel
  obtain ⟨record, present, known⟩ := List.any_eq_true.mp made
  rw [Bool.and_eq_true, beq_iff_eq, beq_iff_eq] at known
  have worked : Relation.ReflTransGen Works _ scanned :=
    works_turns (Sample.answers_registering ["b"] []) _
  have reachable : Relation.ReflTransGen (Tended "uid" "ns") ⟨⟨[], []⟩, []⟩ scanned :=
    .head (.begins (.discovery .standard ⟨rfl, rfl, rfl⟩)) (tended_of_works worked)
  have sound : Registry.Sound ⟨[], []⟩ := by
    refine ⟨List.nodup_nil, ?_⟩
    intro record absent
    cases absent
  have vacant : ∀ record ∈ ([] : List Cluster), record.space ≠ "ns" := by
    intro record absent
    cases absent
  have stewarded := (stewarded_of_reachable sound rfl vacant reachable).1
  exact ⟨_, reachable, record, present, known.2, stewarded record present known.1⟩

end Sample

end System

end ClusterDiscovery

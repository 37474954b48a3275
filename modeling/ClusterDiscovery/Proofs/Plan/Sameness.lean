/-
Plans up to sameness.

A comparison asks of a specification only whether it is the same as another one. So a plan made
from what discovery knows of the records and of the canonical set is what discovery knows of
their plan, and a specification may stand for any other that is the same: each record stays in
the part of the plan in which it was.
-/

import ClusterDiscovery.Plan
import ClusterDiscovery.Proofs.Cluster.Sameness
import ClusterDiscovery.Proofs.Keyed
import ClusterDiscovery.Proofs.World.Keeper

namespace ClusterDiscovery

open Time (Instant)

def Cluster.discovered (cluster : Cluster) : Cluster :=
  { cluster with spec := cluster.spec.discovered }

namespace Plan

def discovered (plan : Plan) : Plan where
  create := plan.create.map Cluster.discovered
  update := plan.update.map Cluster.discovered
  delete := plan.delete
  unchanged := plan.unchanged

def Comparison.discovered (found : Comparison) : Comparison where
  update := found.update.map Cluster.discovered
  delete := found.delete
  unchanged := found.unchanged
  unmatched := found.unmatched.map ClusterSpec.discovered

theorem compare_discovered (canonical : Keyed ClusterSpec) (existing : List Cluster) :
    compare (canonical.map ClusterSpec.discovered) (existing.map Cluster.discovered) =
      (compare canonical existing).discovered := by
  induction existing generalizing canonical with
  | nil => rfl
  | cons current rest ih =>
      have sameName : current.discovered.name = current.name := rfl
      rw [List.map_cons]
      unfold compare
      rw [sameName, Keyed.get?_map]
      cases found : canonical.get? current.name with
      | none =>
          simp only [Option.map_none, ih]
          rfl
      | some desired =>
          have sameTest : desired.discovered.sameAs current.discovered.spec =
              desired.sameAs current.spec :=
            ClusterSpec.sameAs_congr desired.discovered_discovered
              current.spec.discovered_discovered
          simp only [Option.map_some, ← Keyed.map_erase, ih, sameTest]
          split <;> rfl

/-- Planning looks at nothing of a specification but what discovery knows. -/
theorem changes_discovered (config : Config) (canonical : Keyed ClusterSpec)
    (existing : List Cluster) :
    changes config (canonical.map ClusterSpec.discovered) (existing.map Cluster.discovered) =
      (changes config canonical existing).discovered := by
  unfold changes
  rw [compare_discovered]
  simp only [discovered, Comparison.discovered, Keyed.values, Keyed.map, List.map_map]
  rfl

theorem changes_congr (config : Config) {canonical others : Keyed ClusterSpec}
    {existing alternatives : List Cluster}
    (sameMembers :
      canonical.map ClusterSpec.discovered = others.map ClusterSpec.discovered)
    (sameRecords : existing.map Cluster.discovered = alternatives.map Cluster.discovered) :
    (changes config canonical existing).discovered =
      (changes config others alternatives).discovered := by
  rw [← changes_discovered, ← changes_discovered, sameMembers, sameRecords]

end Plan

/-- Two specifications are the same exactly if they are equal in what discovery knows: without
the managed flag, and with times rounded down to whole seconds. This is an equivalence. Of two
that are the same either may stand for the other, as the specification of a record or as a member
of the canonical set, and the plan has the same records in each of its parts. A change of a single
field is noticed exactly if discovery knows of it, and it knows all of the fields but the flag and
the fractions of the times. -/
theorem ClusterSpec.sameness_is_exact (a b : ClusterSpec) :
    (a.sameAs b = true ↔ a.discovered = b.discovered) ∧
    (∀ t : Instant, IsGreatest {s | s.nano = 0 ∧ s ≤ t} t.wholeSecond) ∧
    (Equivalence fun first second : ClusterSpec => first.sameAs second = true) ∧
    (a.sameAs b = true → ∀ config,
      (∀ canonical metadata before after,
        (Plan.changes config canonical (before ++ ⟨metadata, a⟩ :: after)).discovered =
          (Plan.changes config canonical (before ++ ⟨metadata, b⟩ :: after)).discovered) ∧
      ∀ (canonical : Keyed ClusterSpec) key existing,
        (Plan.changes config (canonical.insert key a) existing).discovered =
          (Plan.changes config (canonical.insert key b) existing).discovered) ∧
    ∀ field value, a.sameAs (Field.write a field value) = true ↔
      Field.known field (Field.read a field) = Field.known field value := by
  refine ⟨sameAs_iff, Instant.isGreatest_wholeSecond, equivalence_sameAs, ?_,
    sameAs_write_iff a⟩
  intro same config
  have known : a.discovered = b.discovered := sameAs_iff.mp same
  constructor
  · intro canonical metadata before after
    apply Plan.changes_congr config rfl
    simp only [List.map_append, List.map_cons, Cluster.discovered, known]
  · intro canonical key existing
    refine Plan.changes_congr config ?_ rfl
    rw [Keyed.map_insert, Keyed.map_insert, known]

section Sample

private abbrev beforeEpoch : Instant := ⟨-1, 500000000, by decide, by decide⟩

example : beforeEpoch.wholeSecond = ⟨-1, 0, by decide, by decide⟩ := by decide

private abbrev jittered : ClusterSpec :=
  { Sample.spec "a" with
    activityTimestamp := some beforeEpoch
    isManaged := true }

private abbrev steady : ClusterSpec :=
  { Sample.spec "a" with activityTimestamp := some beforeEpoch.wholeSecond }

private abbrev steadyPlan (spec : ClusterSpec) : Plan :=
  Plan.changes Sample.config (Keyed.empty.insert "a" steady)
    [⟨{ Metadata.empty with name := some "a" }, spec⟩]

/-- A record with a fraction in its time is as much up to date as one without it, but a time that
is lost is noticed. -/
theorem ClusterSpec.sameness_is_exact_sample :
    jittered.sameAs steady = true ∧ (steadyPlan steady).unchanged = 1 ∧
      (steadyPlan jittered).unchanged = 1 ∧
      jittered.sameAs { jittered with activityTimestamp := none } = false := by
  have same : jittered.sameAs steady = true := by decide +kernel
  have upToDate : (steadyPlan steady).unchanged = 1 := by decide +kernel
  obtain ⟨_, _, _, replacing, noticing⟩ := sameness_is_exact jittered steady
  have samePlan : (steadyPlan jittered).discovered = (steadyPlan steady).discovered :=
    (replacing same Sample.config).1 _ _ [] []
  have alsoUpToDate : (steadyPlan jittered).unchanged = 1 :=
    (congrArg Plan.unchanged samePlan).trans upToDate
  have noticed : ¬ jittered.sameAs { jittered with activityTimestamp := none } = true :=
    fun missed => nomatch (noticing .activityTimestamp none).mp missed
  exact ⟨same, upToDate, alsoUpToDate, eq_false_of_ne_true noticed⟩

end Sample

end ClusterDiscovery

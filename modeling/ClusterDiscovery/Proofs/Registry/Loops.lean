/-
What the two loops may do to a registry.

A discovery pass creates unmanaged records without labels, replaces records it has listed
with the same record under a new specification, and deletes. An overlay pass sets the
managed pair of records it has listed. Neither does anything else, whatever it is answered.
-/

import ClusterDiscovery.Overlay.Pass
import ClusterDiscovery.Proofs.Pass.Discovery
import ClusterDiscovery.Proofs.Plan.Partition
import ClusterDiscovery.Proofs.Registry.Basic

namespace ClusterDiscovery

inductive Loop where
  | discovery
  | overlay
  deriving DecidableEq, Repr

namespace Loop

def Value : Loop → Type
  | .discovery => Except Failure (Action × PassOutcome)
  | .overlay => Overlay.Summary

def permits : Loop → List Cluster → Effect → Prop
  | .discovery, _, .cluster (.createRecord cluster) =>
      cluster.metadata.labels = none ∧ cluster.spec.isManaged = false
  | .discovery, known, .cluster (.replaceRecord cluster) =>
      ∃ seen ∈ known, ∃ desired, cluster = seen.withSpec desired
  | .discovery, _, .cluster (.deleteRecord _ _) => True
  | .discovery, _, .cluster (.setManaged _ _) => False
  | .overlay, known, .cluster (.setManaged cluster _) => cluster ∈ known
  | .overlay, _, .cluster (.createRecord _) => False
  | .overlay, _, .cluster (.replaceRecord _) => False
  | .overlay, _, .cluster (.deleteRecord _ _) => False
  | _, _, _ => True

def discipline (loop : Loop) : Discipline (List Cluster) where
  permits := loop.permits
  learns := Registry.snapshot
  stops _ := True

end Loop

variable {space : String} {known : List Cluster}

namespace Pass

variable {settings : Settings} {config : Config} {canonical : Keyed ClusterSpec}
  {rule : Discipline (List Cluster)}

/-- A discipline for the passes of a configuration. It permits what they write: records
made from an inventory, records they have listed with a specification that an inventory
gives for the same cluster, and deletes. -/
structure Suits (config : Config) (space : String) (rule : Discipline (List Cluster)) :
    Prop where
  learns : rule.learns = Registry.snapshot
  stops : ∀ known, rule.stops known
  reads : ∀ known effect, effect.changesRecord = false → rule.permits known effect
  creates : ∀ known spec,
    Inventory.Yields config.spec.filters ⟨secretName config, space⟩ spec →
      rule.permits known (.cluster (.createRecord (.ownedBy config spec)))
  replaces : ∀ known, ∀ seen ∈ known, ∀ desired,
    Inventory.Yields config.spec.filters ⟨secretName config, space⟩ desired →
      desired.name = seen.name →
        rule.permits known (.cluster (.replaceRecord (seen.withSpec desired)))
  deletes : ∀ known name, rule.permits known (.cluster (.deleteRecord space name))

namespace Suits

variable (suits : Suits config space rule)

include suits

private theorem learns_call {call : ClusterCall} (answer : Except Failure call.Result)
    (unlisted : Registry.snapshot known (.cluster call) answer = known) :
    rule.learns known (.cluster call) answer = known := by
  rw [suits.learns]
  exact unlisted

private theorem applyAll_obeys {mutations : List Mutation}
    (permitted : ∀ mutation ∈ mutations, rule.permits known (.cluster (mutation.call space))) :
    (Plan.applyAll space mutations).Obeys rule (fun after _ => after = known) known := by
  refine Plan.applyAll_stage ?_ ?_ rfl
  · rintro _ mutation member rfl
    refine ⟨permitted mutation member, fun answer => suits.learns_call answer ?_⟩
    cases mutation <;> rfl
  · rintro _ measurement rfl
    refine ⟨suits.reads _ _ rfl, fun _ => ?_⟩
    rw [suits.learns]
    rfl

private theorem removeAll_obeys (known : List Cluster) :
    (removeAll space).Obeys rule (fun _ _ => True) known := by
  unfold removeAll
  refine Routine.obeys_bind.mpr (Routine.obeys_call.mpr ⟨suits.reads _ _ rfl, ?_⟩)
  intro answer
  cases answer with
  | error failure => exact trivial
  | ok existing =>
      refine (suits.applyAll_obeys ?_).mono fun _ _ _ => trivial
      intro mutation member
      obtain ⟨name, _present, rfl⟩ := List.mem_map.mp member
      exact suits.deletes _ name

private theorem converge_obeys (found : Found config space canonical) (known : List Cluster) :
    (converge config space canonical).Obeys rule (fun _ _ => True) known := by
  unfold converge
  refine Routine.obeys_bind.mpr (Routine.obeys_call.mpr ⟨suits.reads _ _ rfl, ?_⟩)
  intro answer
  cases answer with
  | error failure => exact trivial
  | ok existing =>
      refine Routine.Obeys.bind (suits.applyAll_obeys ?_) (fun _ _ _ => ?_)
        (fun _ _ _ => trivial)
      · intro mutation member
        rcases List.mem_append.mp member with inWrites | isDelete
        · rcases List.mem_append.mp inWrites with isCreate | isUpdate
          · obtain ⟨cluster, created, rfl⟩ := List.mem_map.mp isCreate
            obtain ⟨key, spec, isMember, rfl⟩ := Plan.of_mem_create created
            exact suits.creates _ spec (found key spec isMember).2
          · obtain ⟨cluster, updated, rfl⟩ := List.mem_map.mp isUpdate
            obtain ⟨current, present, desired, isMember, rfl⟩ := Plan.of_mem_update updated
            obtain ⟨sameName, yields⟩ := found current.name desired isMember
            refine suits.replaces _ current ?_ desired yields sameName
            rw [suits.learns]
            exact List.mem_append_left _ present
        · obtain ⟨name, _deleted, rfl⟩ := List.mem_map.mp isDelete
          exact suits.deletes _ name
      · exact (Routine.obeys_perform (e := .nudge)).mpr
          ⟨suits.reads _ _ rfl, fun _ => trivial⟩

/-- Passes of a configuration keep to every discipline that suits them. -/
theorem run_obeys (known : List Cluster) :
    (run settings config space).Obeys rule (fun _ _ => True) known := by
  unfold run
  have searching : (discover settings config space).Obeys rule (fun _ result =>
      ∀ canonical, result = .ok canonical → Found config space canonical) known :=
    discover_obeys (fun known effect inquiry => suits.reads known effect
      (Effect.changesRecord_of_isInquiry (Effect.isInquiry_of_isInquiryIn inquiry)))
      suits.stops known
  refine Routine.obeys_bind.mpr (Routine.obeys_attempt.mpr (searching.mono ?_))
  intro known result found
  cases result with
  | ok canonical =>
      exact (suits.converge_obeys (found canonical rfl) known).bind
        (fun _ _ _ => Routine.obeys_pure.mpr trivial) (fun _ _ _ => trivial)
  | error failure =>
      simp only
      split
      · exact (suits.removeAll_obeys known).bind (fun _ _ _ => Routine.obeys_pure.mpr trivial)
          (fun _ _ _ => trivial)
      · split
        · exact Routine.obeys_pure.mpr trivial
        · exact Routine.obeys_ofExcept.mpr trivial

end Suits

theorem suits_discipline (config : Config) (space : String) :
    Suits config space Loop.discovery.discipline where
  learns := rfl
  stops := fun _ => trivial
  reads := by
    intro known effect unchanging
    cases effect with
    | cluster call => cases call <;> trivial
    | _ => trivial
  creates := by
    intro known spec yields
    obtain ⟨_cutoff, _subscription, _admissible, describes⟩ := yields.describes
    exact ⟨rfl, describes.unmanaged⟩
  replaces := fun _ seen listed desired _ _ => ⟨seen, listed, desired, rfl⟩
  deletes := fun _ _ => trivial

end Pass

namespace Overlay

private theorem repair_obeys {records : List Cluster} (managedIds : List String)
    (summary : Summary) (included : ∀ record ∈ records, record ∈ known) :
    (repair managedIds summary records).Obeys Loop.overlay.discipline (fun _ _ => True)
      known := by
  induction records generalizing summary with
  | nil => exact Program.obeys_done.mpr trivial
  | cons cluster rest ih =>
      have others := fun record member => included record (List.mem_cons_of_mem _ member)
      have permitted : Loop.overlay.discipline.permits known
          (.cluster (.setManaged cluster (managedIds.contains cluster.name))) :=
        included cluster List.mem_cons_self
      unfold repair
      simp only
      split
      · exact ih _ others
      · refine Program.obeys_bind.mpr (Program.obeys_effect_bind.mpr
          ⟨permitted, fun answer => ?_⟩)
        cases answer with
        | error failure => exact Program.obeys_done.mpr (ih _ others)
        | ok result =>
            refine Program.obeys_effect_bind.mpr ⟨trivial, fun _ => ?_⟩
            exact Program.obeys_done.mpr (ih _ others)

theorem pass_obeys (known : List Cluster) :
    pass.Obeys Loop.overlay.discipline (fun _ _ => True) known := by
  unfold pass
  refine Program.obeys_effect_bind.mpr ⟨trivial, fun answer => ?_⟩
  cases answer with
  | error failure => exact Program.obeys_done.mpr trivial
  | ok records =>
      simp only
      split
      · exact Program.obeys_done.mpr trivial
      · refine Program.obeys_effect_bind.mpr ⟨trivial, fun answer => ?_⟩
        cases answer with
        | error failure => exact Program.obeys_done.mpr trivial
        | ok managedIds =>
            exact repair_obeys managedIds .nothing fun record member =>
              List.mem_append_left _ member

end Overlay

namespace Registry.Answers

variable {registry next : Registry} {effect : Effect} {answer : effect.Answer}

/-- After an effect of a discovery pass a record has the flag and the labels it had, or it is
new and has neither. -/
theorem of_discovery (answers : registry.Answers effect answer next)
    (knows : registry.Knows known) (permitted : Loop.discovery.permits known effect)
    {record : Cluster} (present : record ∈ next.records) :
    (∃ old ∈ registry.records, record.key = old.key ∧
      record.spec.isManaged = old.spec.isManaged ∧
      record.metadata.labels = old.metadata.labels) ∨
    (record.key ∉ registry.keys ∧ record.spec.isManaged = false ∧
      record.metadata.labels = none) := by
  cases answers with
  | failed | listed | listedAll | existed | unrelated =>
      exact Or.inl ⟨record, present, rfl, rfl, rfl⟩
  | @created cluster version free fresh =>
      rcases List.mem_append.mp present with old | new
      · exact Or.inl ⟨record, old, rfl, rfl, rfl⟩
      · rw [List.mem_singleton.mp new]
        exact Or.inr ⟨free, permitted.2, permitted.1⟩
  | @replaced cluster current version isCurrent sameKey sameVersion fresh =>
      rcases mem_put present with rfl | ⟨old, _different⟩
      · obtain ⟨seen, wasListed, desired, rfl⟩ := permitted
        have same : current = seen := (knows seen wasListed).2 current isCurrent sameKey sameVersion
        subst same
        exact Or.inl ⟨current, isCurrent, rfl, rfl, rfl⟩
      · exact Or.inl ⟨record, old, rfl, rfl, rfl⟩
  | deleted => exact Or.inl ⟨record, List.mem_of_mem_filter present, rfl, rfl, rfl⟩
  | marked => exact permitted.elim

/-- An effect of an overlay pass keeps the keys, and every record up to its managed pair. -/
theorem of_overlay (answers : registry.Answers effect answer next)
    (permitted : Loop.overlay.permits known effect) :
    next.keys = registry.keys ∧ ∀ record ∈ next.records, ∃ old ∈ registry.records,
      record.key = old.key ∧ old.SameButManaged record ∧ (old.Paired → record.Paired) := by
  cases answers with
  | failed | listed | listedAll | existed | unrelated =>
      exact ⟨rfl, fun record present =>
        ⟨record, present, rfl, record.sameButManaged_refl, id⟩⟩
  | created => exact permitted.elim
  | replaced => exact permitted.elim
  | deleted => exact permitted.elim
  | @marked cluster current managed version isCurrent sameKey sameVersion fresh =>
      refine ⟨keys_put _ _, ?_⟩
      intro record present
      rcases mem_put present with rfl | ⟨old, _different⟩
      · exact ⟨current, isCurrent, current.key_setManaged managed,
          current.sameButManaged_setManaged managed _,
          fun _ => current.paired_setManaged managed _⟩
      · exact ⟨record, old, rfl, record.sameButManaged_refl, id⟩

theorem of_create {cluster : Cluster} {answer : (Effect.cluster (.createRecord cluster)).Answer}
    (answers : registry.Answers (.cluster (.createRecord cluster)) answer next) :
    (∀ old ∈ registry.records, old ∈ next.records) ∧
      (cluster.key ∈ registry.keys → next.records = registry.records) := by
  cases answers with
  | failed | existed => exact ⟨fun _ present => present, fun _ => rfl⟩
  | created free fresh =>
      exact ⟨fun _ present => List.mem_append_left _ present, fun taken => absurd taken free⟩
  | unrelated answer outside => cases outside

end Registry.Answers

end ClusterDiscovery

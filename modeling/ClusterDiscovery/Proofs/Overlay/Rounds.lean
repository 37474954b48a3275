/-
Rounds of both loops.

Discovery passes of a namespace that find the same set and overlay passes that read the same
ids may take turns in any order. Each makes something of the record of a name, whatever the
other records are, and a discovery pass with an overlay pass somewhere after it has the last
word: what comes before, between and after them makes no difference.
-/

import ClusterDiscovery.Proofs.Overlay.Repair
import ClusterDiscovery.Proofs.Pass.Resumption
import ClusterDiscovery.Proofs.Registry.Loops

namespace ClusterDiscovery

open Cluster (Alike Distinct named? overlaid unversioned within)

namespace Cluster

theorem nodup_keys_of_within {records : List Cluster}
    (distinct : ∀ space, Distinct (within space records)) : (records.map key).Nodup := by
  induction records with
  | nil => exact List.nodup_nil
  | cons record rest ih =>
      refine List.nodup_cons.mpr ⟨?_, ih fun space => ?_⟩
      · intro member
        obtain ⟨other, isLater, sameKey⟩ := List.mem_map.mp member
        have own := distinct record.space
        have first : within record.space (record :: rest) =
            record :: within record.space rest :=
          List.filter_cons_of_pos (beq_self_eq_true record.space)
        rw [first] at own
        refine (List.nodup_cons.mp own).1 (List.mem_map.mpr ⟨other, ?_, congrArg Prod.snd sameKey⟩)
        exact List.mem_filter.mpr ⟨isLater, beq_iff_eq.mpr (congrArg Prod.fst sameKey)⟩
      · exact List.Nodup.sublist
          (((List.sublist_cons_self record rest).filter _).map _) (distinct space)

/-- The record of a name in a namespace, its version aside. -/
def shown? (records : List Cluster) (space target : String) : Option Cluster :=
  (named? (within space records) target).map unversioned

variable {first second records : List Cluster} {space target : String}

theorem shown?_eq (records : List Cluster) (space target : String) :
    shown? records space target = named? (within space (records.map unversioned)) target := by
  unfold shown? named? within
  rw [List.filter_map, List.find?_map]
  rfl

theorem Alike.keys (alike : Alike first second) :
    (first.map key).Perm (second.map key) := by
  have sameKeys := List.Perm.map key alike
  rw [List.map_map, List.map_map] at sameKeys
  exact sameKeys

theorem Alike.shown?_eq (alike : Alike first second) (distinct : (first.map key).Nodup)
    (space target : String) : shown? first space target = shown? second space target := by
  rw [Cluster.shown?_eq, Cluster.shown?_eq]
  refine named?_perm (distinct_within ?_ space) (List.Perm.filter _ alike) target
  rw [List.map_map]
  exact distinct

theorem shown?_of_mem (distinct : (records.map key).Nodup) {record : Cluster}
    (member : record ∈ records) :
    shown? records record.space record.name = some record.unversioned := by
  have inside : record ∈ within record.space records :=
    List.mem_filter.mpr ⟨member, beq_self_eq_true record.space⟩
  unfold shown?
  rw [named?_of_mem (distinct_within distinct record.space) inside]
  rfl

/-- Records that agree name by name in each namespace, versions aside, are alike. -/
theorem alike_of_shown? (distinctFirst : (first.map key).Nodup)
    (distinctSecond : (second.map key).Nodup)
    (agree : ∀ space target, shown? first space target = shown? second space target) :
    Alike first second := by
  have nodup {records : List Cluster} (distinct : (records.map key).Nodup) :
      (records.map unversioned).Nodup := by
    refine List.pairwise_map.mpr ((List.pairwise_map.mp distinct).imp ?_)
    intro one other different same
    have sameKey := congrArg key same
    exact different sameKey
  have included {one other : List Cluster} (distinct : (one.map key).Nodup)
      (same : ∀ space target, shown? one space target = shown? other space target)
      {cluster : Cluster} (member : cluster ∈ one.map unversioned) :
      cluster ∈ other.map unversioned := by
    obtain ⟨record, present, rfl⟩ := List.mem_map.mp member
    have found := same record.space record.name
    rw [shown?_of_mem distinct present] at found
    obtain ⟨counterpart, hasName, equal⟩ := Option.map_eq_some_iff.mp found.symm
    exact List.mem_map.mpr ⟨counterpart, List.mem_of_mem_filter (mem_of_named? hasName), equal⟩
  unfold Alike
  rw [List.perm_ext_iff_of_nodup (nodup distinctFirst) (nodup distinctSecond)]
  intro cluster
  constructor
  · exact included distinctFirst agree
  · exact included distinctSecond fun space target => (agree space target).symm

theorem shown?_map_overlaid (managed : List String) (records : List Cluster)
    (space target : String) :
    shown? (records.map (overlaid managed)) space target =
      (shown? records space target).map (overlaid managed) := by
  have sameSpace : (fun record : Cluster => record.space == space) ∘ overlaid managed =
      fun record => record.space == space := by
    funext record
    exact congrArg (fun key => key.1 == space) (key_overlaid managed record)
  have sameName : (fun record : Cluster => record.name == target) ∘ overlaid managed =
      fun record => record.name == target := by
    funext record
    exact congrArg (fun name => name == target) (name_overlaid managed record)
  unfold shown? named? within
  rw [List.filter_map, List.find?_map, sameSpace, sameName, Option.map_map, Option.map_map]
  congr 1
  funext record
  exact (overlaid_unversioned managed record).symm

end Cluster

/-- What both loops work towards: a configuration with the set that its passes find, and the
ids that overlay passes read. -/
structure Aim where
  config : Config
  space : String
  inSpace : config.metadata.space = some space
  canonical : Keyed ClusterSpec
  managed : List String

namespace Aim

variable {aim : Aim} {place target : String} {current : Option Cluster}

/-- What a pass of a loop makes of the record of a name in a namespace. -/
def makes (aim : Aim) (place target : String) (current : Option Cluster) : Loop → Option Cluster
  | .discovery =>
      if place = aim.space then Plan.settled? aim.config aim.canonical target current
      else current
  | .overlay => current.map (overlaid aim.managed)

def makesAll (aim : Aim) (place target : String) (loops : List Loop) (current : Option Cluster) :
    Option Cluster :=
  loops.foldl (aim.makes place target) current

theorem settled?_map_overlaid (managed : List String) (config : Config)
    (canonical : Keyed ClusterSpec) (target : String) (record : Cluster) :
    Plan.settled? config canonical target (some (record.overlaid managed)) =
      (Plan.settled? config canonical target (some record)).map (overlaid managed) := by
  unfold Plan.settled?
  rw [Option.map_map]
  congr 1
  funext desired
  simp only [Function.comp_apply, Cluster.sameAs_spec_overlaid]
  split
  · rfl
  · exact (Cluster.overlaid_withSpec managed record desired).symm

theorem settled?_settled? (config : Config) (canonical : Keyed ClusterSpec) (target : String)
    (current : Option Cluster) :
    Plan.settled? config canonical target (Plan.settled? config canonical target current) =
      Plan.settled? config canonical target current :=
  Plan.settled?_of_settled rfl

theorem settled?_none_of_none {config : Config} {canonical : Keyed ClusterSpec}
    (gone : Plan.settled? config canonical target current = none) (other : Option Cluster) :
    Plan.settled? config canonical target other = none := by
  have absent : canonical.get? target = none := Option.map_eq_none_iff.mp gone
  unfold Plan.settled?
  rw [absent]
  rfl

theorem makes_overlay_twice (aim : Aim) (place target : String) (current : Option Cluster) :
    aim.makes place target (aim.makes place target current .overlay) .overlay =
      aim.makes place target current .overlay := by
  cases current with
  | none => rfl
  | some record => exact congrArg some (Cluster.overlaid_overlaid aim.managed record)

theorem makes_discovery_twice (aim : Aim) (place target : String) (current : Option Cluster) :
    aim.makes place target (aim.makes place target current .discovery) .discovery =
      aim.makes place target current .discovery := by
  unfold makes
  by_cases own : place = aim.space
  · simp only [if_pos own]
    exact settled?_settled? aim.config aim.canonical target current
  · simp only [if_neg own]

/-- An overlay pass in front of the two makes no difference. -/
theorem makes_after_overlay (aim : Aim) (place target : String) (current : Option Cluster) :
    aim.makes place target
        (aim.makes place target (aim.makes place target current .overlay) .discovery) .overlay =
      aim.makes place target (aim.makes place target current .discovery) .overlay := by
  cases current with
  | none => rfl
  | some record =>
      have twice := makes_overlay_twice aim place target
        (aim.makes place target (some record) .discovery)
      refine Eq.trans ?_ twice
      congr 1
      unfold makes
      by_cases own : place = aim.space
      · simp only [if_pos own]
        exact settled?_map_overlaid aim.managed aim.config aim.canonical target record
      · simp only [if_neg own]

/-- Nor does a discovery pass behind them. -/
theorem makes_before_discovery (aim : Aim) (place target : String) (current : Option Cluster) :
    aim.makes place target
        (aim.makes place target (aim.makes place target current .discovery) .overlay) .discovery =
      aim.makes place target (aim.makes place target current .discovery) .overlay := by
  unfold makes
  by_cases own : place = aim.space
  · simp only [if_pos own]
    cases settled : Plan.settled? aim.config aim.canonical target current with
    | none => exact settled?_none_of_none settled _
    | some record =>
        have fixed := settled?_settled? aim.config aim.canonical target current
        rw [settled] at fixed
        refine (settled?_map_overlaid aim.managed aim.config aim.canonical target record).trans ?_
        rw [fixed]
  · simp only [if_neg own]

theorem makesAll_cons (loop : Loop) (rest : List Loop) :
    aim.makesAll place target (loop :: rest) current =
      aim.makesAll place target rest (aim.makes place target current loop) := rfl

theorem makesAll_of_fixed {loops : List Loop}
    (discovered : aim.makes place target current .discovery = current)
    (looked : aim.makes place target current .overlay = current) :
    aim.makesAll place target loops current = current := by
  induction loops with
  | nil => rfl
  | cons loop rest ih =>
      rw [makesAll_cons]
      cases loop with
      | discovery => rw [discovered, ih]
      | overlay => rw [looked, ih]

theorem makesAll_of_discovered {loops : List Loop} (discovered : ∃ before,
      aim.makes place target before .discovery = current) (ends : Loop.overlay ∈ loops) :
    aim.makesAll place target loops current = aim.makes place target current .overlay := by
  obtain ⟨before, rfl⟩ := discovered
  induction loops with
  | nil => cases ends
  | cons loop rest ih =>
      rw [makesAll_cons]
      cases loop with
      | discovery =>
          rw [makes_discovery_twice]
          rcases List.mem_cons.mp ends with impossible | later
          · cases impossible
          · exact ih later
      | overlay =>
          exact makesAll_of_fixed (makes_before_discovery aim place target before)
            (makes_overlay_twice aim place target _)

/-- A discovery pass and an overlay pass after it have the last word. -/
theorem makesAll_of_sublist {loops : List Loop}
    (ordered : [Loop.discovery, Loop.overlay].Sublist loops) (current : Option Cluster) :
    aim.makesAll place target loops current =
      aim.makes place target (aim.makes place target current .discovery) .overlay := by
  -- overlay passes in front make no difference, so the first discovery pass decides
  induction loops generalizing current with
  | nil => cases ordered
  | cons loop rest ih =>
      rw [makesAll_cons]
      cases loop with
      | discovery =>
          refine makesAll_of_discovered ⟨current, rfl⟩ ?_
          cases ordered with
          | cons _ later => exact later.subset (List.mem_cons_of_mem _ List.mem_cons_self)
          | cons_cons _ later => exact later.subset List.mem_cons_self
      | overlay =>
          have later : [Loop.discovery, Loop.overlay].Sublist rest := by
            cases ordered with
            | cons _ later => exact later
          rw [ih later]
          exact makes_after_overlay aim place target current

end Aim

end ClusterDiscovery

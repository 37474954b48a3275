/-
A world keeps the records of each namespace.

The store lists the records of a namespace in its own order. A record that is written keeps
the version it is written with, a call that a fault strikes changes nothing, and no call
changes the records of more than one namespace.
-/

import ClusterDiscovery.Proofs.Overlay.Repair
import ClusterDiscovery.World.Basic

namespace ClusterDiscovery

open Cluster (named?)

namespace Store

variable {store : Store} {space : String}

theorem mem_recordsIn {cluster : Cluster} :
    cluster ∈ store.recordsIn space ↔ cluster ∈ store.records ∧ cluster.space = space := by
  unfold recordsIn
  rw [List.mem_filter, beq_iff_eq]

theorem isAt_iff {cluster record : Cluster} :
    isAt cluster.space cluster.name record = true ↔ record.key = cluster.key := by
  unfold isAt Cluster.key
  rw [Bool.and_eq_true, beq_iff_eq, beq_iff_eq, Prod.mk.injEq]

private theorem isSome_named?_recordsIn (name : String) :
    (named? (store.recordsIn space) name).isSome = store.records.any (isAt space name) := by
  unfold named? recordsIn isAt
  rw [List.find?_filter, Bool.eq_iff_iff, List.find?_isSome, List.any_eq_true]
  simp

theorem recordsIn_create {cluster : Cluster} (inSpace : cluster.space = space) :
    (store.create cluster).recordsIn space =
      (Mutation.create cluster).revise cluster.metadata.resourceVersion
        (store.recordsIn space) := by
  rw [Mutation.revise_create, isSome_named?_recordsIn, Cluster.withVersion_self]
  unfold create
  rw [inSpace]
  split
  · rfl
  · unfold recordsIn
    rw [List.filter_append]
    simp [inSpace]

private theorem recordsIn_replace_eq (cluster : Cluster) (other : String) :
    (store.replace cluster).recordsIn other =
      (store.recordsIn other).map fun old =>
        if isAt cluster.space cluster.name old then cluster else old := by
  unfold replace recordsIn
  rw [List.filter_map]
  congr 2
  funext old
  simp only [Function.comp_apply]
  split
  · rename_i same
    unfold isAt at same
    rw [Bool.and_eq_true, beq_iff_eq] at same
    rw [same.1]
  · rfl

theorem recordsIn_replace {cluster : Cluster} (inSpace : cluster.space = space) :
    (store.replace cluster).recordsIn space =
      (Mutation.update cluster).revise cluster.metadata.resourceVersion
        (store.recordsIn space) := by
  rw [Mutation.revise_update, Cluster.withVersion_self, recordsIn_replace_eq]
  apply List.map_congr_left
  intro old member
  have here : old.space = space := (mem_recordsIn.mp member).2
  simp [isAt, here, inSpace]

theorem recordsIn_delete (name : String) :
    (store.delete space name).recordsIn space =
      (Mutation.delete name).revise none (store.recordsIn space) := by
  rw [Mutation.revise_delete]
  unfold delete recordsIn isAt
  rw [List.filter_filter, List.filter_filter]
  apply List.filter_congr
  intro old _member
  cases here : old.space == space <;> simp [bne]

theorem recordsIn_elsewhere {mutation : Mutation} (inSpace : mutation.isIn space) {other : String}
    (different : other ≠ space) :
    (store.perform (mutation.call space)).2.recordsIn other = store.recordsIn other := by
  cases mutation with
  | create cluster =>
      change (store.create cluster).recordsIn other = _
      have outside : (cluster.space == other) = false := by
        rw [beq_eq_false_iff_ne, show cluster.space = space from inSpace]
        exact different.symm
      unfold create recordsIn
      split
      · rfl
      · rw [List.filter_append, List.filter_singleton, outside]
        exact List.append_nil _
  | update cluster =>
      change (store.replace cluster).recordsIn other = _
      rw [recordsIn_replace_eq]
      refine (List.map_congr_left fun old member => ?_).trans (List.map_id' _)
      have apart : (old.space == cluster.space) = false := by
        rw [beq_eq_false_iff_ne, (mem_recordsIn.mp member).2,
          show cluster.space = space from inSpace]
        exact different
      unfold isAt
      rw [apart, Bool.false_and, if_neg Bool.false_ne_true]
  | delete name =>
      change (store.delete space name).recordsIn other = _
      unfold delete recordsIn isAt
      rw [List.filter_filter]
      apply List.filter_congr
      intro old _member
      by_cases here : old.space = other
      · have apart : (old.space == space) = false := by
          rw [beq_eq_false_iff_ne, here]
          exact different
        rw [apart, Bool.false_and, Bool.not_false, Bool.and_true]
      · rw [beq_eq_false_iff_ne.mpr here, Bool.false_and]

end Store

namespace World

variable {world : World} {space : String}

def recordsIn (space : String) (world : World) : List Cluster := world.store.recordsIn space

theorem store_handle_of_error {call : ClusterCall} {failure : Failure}
    (failed : (handle (.cluster call) world).1 = Except.error failure) :
    (handle (.cluster call) world).2.store = world.store := by
  change (world.callCluster call).1 = _ at failed
  change (world.callCluster call).2.store = _
  unfold callCluster at failed ⊢
  split at failed
  · rfl
  · cases failed

theorem handle_of_ok {call : ClusterCall} {result : call.Result}
    (succeeded : (handle (.cluster call) world).1 = Except.ok result) :
    result = (world.store.perform call).1 ∧
      (handle (.cluster call) world).2.store = (world.store.perform call).2 := by
  change (world.callCluster call).1 = _ at succeeded
  change _ ∧ (world.callCluster call).2.store = _
  unfold callCluster at succeeded ⊢
  split at succeeded
  · cases succeeded
  · exact ⟨(Except.ok.inj succeeded).symm, rfl⟩

theorem keeps (space : String) : Handler.Keeps handle space (recordsIn space) where
  located := by
    intro world record member
    exact (Store.mem_recordsIn.mp member).2
  listed := by
    intro world records succeeded
    rw [(handle_of_ok succeeded).1]
    exact List.Perm.refl _
  listing := by
    intro world
    unfold recordsIn
    cases answered : (handle (.cluster (.listRecords space)) world).1 with
    | ok records => rw [(handle_of_ok answered).2]; rfl
    | error failure => rw [store_handle_of_error answered]
  made := by
    intro mutation world result inSpace succeeded
    have changed := (handle_of_ok succeeded).2
    unfold recordsIn
    rw [changed]
    cases mutation with
    | create cluster =>
        exact ⟨_, List.Perm.of_eq (Store.recordsIn_create inSpace).symm⟩
    | update cluster =>
        exact ⟨_, List.Perm.of_eq (Store.recordsIn_replace inSpace).symm⟩
    | delete name =>
        exact ⟨none, List.Perm.of_eq (Store.recordsIn_delete name).symm⟩
  refused := by
    intro mutation world failure failed
    unfold recordsIn
    rw [store_handle_of_error failed]
  measured := by
    intro measurement world
    rfl
  nudged := by
    intro world
    rfl

def records (world : World) : List Cluster := world.store.records

theorem records_of_unchanging {effect : Effect} (unchanging : effect.changesRecord = false) :
    records (handle effect world).2 = records world := by
  unfold records
  cases effect with
  | cluster call =>
      cases answered : (handle (.cluster call) world).1 with
      | error failure => rw [store_handle_of_error answered]
      | ok result =>
          rw [(handle_of_ok answered).2]
          cases call <;> first | rfl | cases unchanging
  | send request =>
      change (world.send request).2.store.records = _
      unfold send
      simp only
      split <;> rfl
  | trigger space name =>
      unfold handle
      simp only
      split <;> rfl
  | _ => rfl

theorem houses : Handler.Houses handle records where
  keeps := keeps
  still := fun _ _ unchanging => records_of_unchanging unchanging
  elsewhere := by
    intro space other mutation world inSpace different
    change recordsIn other _ = recordsIn other world
    unfold recordsIn
    cases answered : (handle (.cluster (mutation.call space)) world).1 with
    | error failure => rw [store_handle_of_error answered]
    | ok result =>
        rw [(handle_of_ok answered).2]
        exact Store.recordsIn_elsewhere inSpace different
  listed := by
    intro world listing succeeded
    rw [(handle_of_ok succeeded).1]
    exact List.Perm.refl _
  marked := by
    intro cluster managed world result succeeded
    unfold records
    rw [(handle_of_ok succeeded).2]
    refine Cluster.Alike.of_perm (List.Perm.of_eq (List.map_congr_left fun old _member => ?_))
    simp only [Store.isAt_iff]

def answering (token page : Http.Reply) : Handler World
  | .send (.form _ _), world => (token, world)
  | .send (.query _ _ _), world => (page, world)
  | effect, world => handle effect world

theorem answering_keeps (token page : Http.Reply) (space : String) :
    Handler.Keeps (answering token page) space (recordsIn space) where
  located := (keeps space).located
  listed := (keeps space).listed
  listing := (keeps space).listing
  made := (keeps space).made
  refused := (keeps space).refused
  measured := (keeps space).measured
  nudged := (keeps space).nudged

theorem answering_houses (token page : Http.Reply) :
    Handler.Houses (answering token page) records where
  keeps := answering_keeps token page
  still := by
    intro effect world unchanging
    cases effect with
    | send request => cases request <;> rfl
    | _ => exact houses.still _ world unchanging
  elsewhere := houses.elsewhere
  listed := houses.listed
  marked := houses.marked

theorem answering_undisturbed (token page : Http.Reply) (space : String) :
    Handler.Undisturbed (answering token page) (recordsIn space) :=
  (answering_houses token page).undisturbed_within space

def serving (token : Http.Reply) (page : Nat → Http.Reply) : Handler World
  | .send (.form _ _), world => (token, world)
  | .send (.query url bearer parameters), world =>
      (page (world.journal.requests.length + 1), { world with journal :=
        { world.journal with
          requests := .query url bearer parameters :: world.journal.requests } })
  | effect, world => handle effect world

end World

/-
A small world to try things in: one configuration, its secret with an offline token, and
an inventory of active clusters with the ids that are given.
-/
namespace Sample

def config : Config where
  metadata := { Metadata.empty with
    name := some "discovery"
    space := some "ns"
    uid := some "uid" }
  spec := ⟨"secret", .unrestricted⟩

def secret : Secret where
  metadata := { Metadata.empty with
    name := some "secret"
    space := some "ns" }
  data := none
  stringData := some (Keyed.empty.insert Credential.tokenKey "offline")

def world (records : List Cluster) : World where
  store := { Store.empty with records := records, secrets := [secret] }
  faults := []
  remote := ⟨true, .unreachable, .scripted []⟩
  clock := ⟨0, 0, by decide, by decide⟩
  acceptsTriggers := true
  journal := .blank

def subscription (id : String) : Json.Value :=
  .record [("external_cluster_id", .string id), ("metrics", .array [.record []])]

def spec (id : String) : ClusterSpec where
  name := id
  displayName := id
  console := ""
  apiUrl := ""
  creationTimestamp := none
  activityTimestamp := none
  clusterType := ""
  version := ""
  cloudProvider := ""
  region := ""
  status := ""
  clusterId := id
  managerId := ""
  credential := ⟨"secret", "ns"⟩
  isManaged := false

def page (ids : List String) : Http.Reply :=
  .json (.record [("total", .nat ids.length), ("items", .array (ids.map subscription))])

def granted : Http.Reply := .json (.record [("access_token", .string "t")])

def canonical (ids : List String) : Keyed ClusterSpec :=
  .ofList (ids.map fun id => (id, spec id))

def record (id : String) : Cluster := .ownedBy config { spec id with region := "elsewhere" }

def granting (ids : List String) : Handler World :=
  World.answering (.json (.record [("access_token", .string "t")]))
    (.json (.record [("items", .array (ids.map subscription))]))

def faulty (records : List Cluster) : World :=
  { world records with faults := [⟨.deleteRecord, none, .hub .service, 0, 1⟩] }

end Sample

end ClusterDiscovery

/-
A site: one store, and namespaces that each have surroundings of their own.

What surrounds a namespace decides which calls about its objects fail, what the remote side
replies to its configuration and what the clock shows then. The store belongs to all
namespaces, and so does the count that the versions of records are taken from. What a site
has in a namespace is a share; an effect that concerns one namespace leaves the shares of the
others alone.
-/

import ClusterDiscovery.Proofs.Pass.Versions

namespace ClusterDiscovery

open Cluster (named? unversioned)

variable {τ : Type} {space place : String}

def ClusterCall.space? : ClusterCall → Option String
  | .getSecret space _ => some space
  | .setAuthMethod space _ _ => some space
  | .listRecords space => some space
  | .createRecord cluster => some cluster.space
  | .replaceRecord cluster => some cluster.space
  | .deleteRecord space _ => some space
  | .setManaged cluster _ => some cluster.space
  | .configExists space _ => some space
  | .deleteRefresh space _ => some space
  | .countConfigs => none
  | .listAllRecords => none
  | .listManagedIds => none

def ClusterCall.unversioned : ClusterCall → ClusterCall
  | .createRecord cluster => .createRecord cluster.unversioned
  | .replaceRecord cluster => .replaceRecord cluster.unversioned
  | .setManaged cluster managed => .setManaged cluster.unversioned managed
  | call => call

def Effect.concerns (place : String) : Effect → Prop
  | .cluster call => call.space? = some place
  | .trigger _ _ => False
  | _ => True

namespace Store

def secretsIn (store : Store) (space : String) : List Secret :=
  store.secrets.filter fun secret => secret.metadata.spaceName == space

variable {store : Store}

theorem secret?_eq (place name : String) :
    store.secret? place name = (store.secretsIn place).find? (isSecretAt place name) := by
  unfold secret? secretsIn
  rw [List.find?_filter]
  congr 1
  funext secret
  rw [Bool.eq_iff_iff, decide_eq_true_iff]
  unfold isSecretAt
  rw [Bool.and_eq_true, ← and_assoc, and_self]

theorem secretsIn_setAuthMethod (space name method place : String) :
    (store.setAuthMethod space name method).secretsIn place =
      (store.secretsIn place).map fun secret =>
        if isSecretAt space name secret then secret.setMethod method else secret := by
  unfold setAuthMethod secretsIn
  rw [List.filter_map]
  congr 2
  funext secret
  simp only [Function.comp_apply]
  split <;> rfl

theorem secretsIn_setAuthMethod_of_ne (name method : String) {space place : String}
    (different : place ≠ space) :
    (store.setAuthMethod space name method).secretsIn place = store.secretsIn place := by
  rw [secretsIn_setAuthMethod]
  refine (List.map_congr_left fun secret member => ?_).trans (List.map_id' _)
  have here : secret.metadata.spaceName = place := eq_of_beq (List.mem_filter.mp member).2
  have apart : (place == space) = false := beq_eq_false_iff_ne.mpr different
  unfold isSecretAt
  rw [here, apart, Bool.false_and, if_neg Bool.false_ne_true]

theorem secrets_perform {call : ClusterCall}
    (unwritten : ∀ space name method, call ≠ .setAuthMethod space name method) :
    (store.perform call).2.secrets = store.secrets := by
  cases call with
  | setAuthMethod space name method => exact absurd rfl (unwritten space name method)
  | createRecord cluster =>
      change (store.create cluster).secrets = store.secrets
      unfold create
      split <;> rfl
  | _ => rfl

theorem secretsIn_perform_of_ne {call : ClusterCall} (own : call.space? = some space)
    (different : place ≠ space) :
    (store.perform call).2.secretsIn place = store.secretsIn place := by
  cases call with
  | setAuthMethod target name method =>
      cases own
      exact secretsIn_setAuthMethod_of_ne name method different
  | _ =>
      unfold secretsIn
      rw [secrets_perform fun _ _ _ impossible => by cases impossible]

theorem recordsIn_setManaged_of_ne {cluster : Cluster} (managed : Bool)
    (different : place ≠ cluster.space) :
    (store.setManaged cluster managed).recordsIn place = store.recordsIn place := by
  unfold setManaged recordsIn
  rw [List.filter_map]
  have sameSpace : ((fun record : Cluster => record.space == place) ∘ fun old =>
      if isAt cluster.space cluster.name old then old.setManaged managed else old) =
        fun record => record.space == place := by
    funext old
    simp only [Function.comp_apply]
    split
    · exact congrArg (fun key => key.1 == place) (old.key_setManaged managed)
    · rfl
  rw [sameSpace]
  refine (List.map_congr_left fun old member => ?_).trans (List.map_id' _)
  have apart : (old.space == cluster.space) = false := by
    rw [beq_eq_false_iff_ne, eq_of_beq (List.mem_filter.mp member).2]
    exact different
  unfold isAt
  rw [apart, Bool.false_and, if_neg Bool.false_ne_true]

theorem recordsIn_perform_of_ne {call : ClusterCall} (own : call.space? = some space)
    (different : place ≠ space) :
    (store.perform call).2.recordsIn place = store.recordsIn place := by
  have written {mutation : Mutation} (inSpace : mutation.isIn space) :
      (store.perform (mutation.call space)).2.recordsIn place = store.recordsIn place :=
    recordsIn_elsewhere inSpace different
  cases call with
  | createRecord cluster =>
      have inSpace : (Mutation.create cluster).isIn space := Option.some.inj own
      exact written inSpace
  | replaceRecord cluster =>
      have inSpace : (Mutation.update cluster).isIn space := Option.some.inj own
      exact written inSpace
  | deleteRecord target name =>
      cases own
      have inSpace : (Mutation.delete name).isIn space := trivial
      exact written inSpace
  | setManaged cluster managed =>
      cases own
      exact recordsIn_setManaged_of_ne managed different
  | _ => rfl

private theorem keys_mapped {records : List Cluster} {change : Cluster → Cluster}
    (sameKey : ∀ record ∈ records, (change record).key = record.key) :
    (records.map change).map Cluster.key = records.map Cluster.key := by
  rw [List.map_map]
  exact List.map_congr_left sameKey

private theorem nodup_keys_create (cluster : Cluster)
    (distinct : (store.records.map Cluster.key).Nodup) :
    ((store.create cluster).records.map Cluster.key).Nodup := by
  unfold create
  split
  · exact distinct
  · rename_i free
    rw [List.map_append, List.map_singleton]
    refine List.nodup_append.mpr ⟨distinct, List.pairwise_singleton _ _, ?_⟩
    intro first member second alone same
    obtain ⟨old, present, rfl⟩ := List.mem_map.mp member
    rw [List.mem_singleton.mp alone] at same
    exact free (List.any_eq_true.mpr ⟨old, present, isAt_iff.mpr same⟩)

theorem nodup_keys_perform (call : ClusterCall)
    (distinct : (store.records.map Cluster.key).Nodup) :
    ((store.perform call).2.records.map Cluster.key).Nodup := by
  cases call with
  | createRecord cluster => exact nodup_keys_create cluster distinct
  | replaceRecord cluster =>
      change ((store.replace cluster).records.map Cluster.key).Nodup
      unfold replace
      simp only
      rw [keys_mapped]
      · exact distinct
      · intro old _member
        split
        · rename_i same
          exact (isAt_iff.mp same).symm
        · rfl
  | setManaged cluster managed =>
      change ((store.setManaged cluster managed).records.map Cluster.key).Nodup
      unfold setManaged
      simp only
      rw [keys_mapped]
      · exact distinct
      · intro old _member
        split
        · exact old.key_setManaged managed
        · rfl
  | deleteRecord space name =>
      exact List.Nodup.sublist (List.filter_sublist.map _) distinct
  | _ => exact distinct

end Store

/-- What becomes of a call. -/
inductive Fate where
  | carriedOut
  /-- it fails, and nothing is done -/
  | refused (failure : Failure)
  /-- it is carried out, but its answer is a failure -/
  | lost (failure : Failure)

/-- What surrounds a namespace. Its conditions change with what is asked of it, and of a call
they see all but the version of a record. -/
structure Surroundings (τ : Type) where
  judge : ClusterCall → τ → Fate × τ
  reply : Http.Request → τ → Http.Reply × τ
  clock : τ → Time.Instant × τ

/-- A store whose records have distinct keys, and the conditions of each namespace. -/
structure Site (τ : Type) where
  store : Store
  versions : Nat
  conditions : String → τ
  distinct : (store.records.map Cluster.key).Nodup

namespace Site

structure Share (τ : Type) where
  conditions : τ
  records : List Cluster
  secrets : List Secret

def Share.unversioned (share : Share τ) : Share τ :=
  { share with records := share.records.map Cluster.unversioned }

def share (place : String) (site : Site τ) : Share τ :=
  ⟨site.conditions place, site.store.recordsIn place, site.store.secretsIn place⟩

def withConditions (site : Site τ) (place : String) (conditions : τ) : Site τ :=
  { site with conditions := fun other =>
      if other = place then conditions else site.conditions other }

def fresh (site : Site τ) : Option String := some (toString site.versions)

def commit (site : Site τ) (call : ClusterCall) : Site τ where
  store := (site.store.perform call).2
  versions := site.versions + 1
  conditions := site.conditions
  distinct := site.store.nodup_keys_perform call site.distinct

def missing (cluster : Cluster) : Failure :=
  .hub (.api ⟨"Failure", cluster.name, "NotFound", 404⟩)

def replace (site : Site τ) (cluster : Cluster) : Except Failure Unit × Site τ :=
  match named? (site.store.recordsIn cluster.space) cluster.name with
  | none => (.error (missing cluster), site)
  | some stored =>
      if stored.version? = cluster.version? then
        (.ok (), site.commit (.replaceRecord (cluster.withVersion site.fresh)))
      else (.error (.writeConflict cluster.name), site)

def perform : (call : ClusterCall) → Site τ → Except Failure call.Result × Site τ
  | .createRecord cluster, site =>
      (.ok (), site.commit (.createRecord (cluster.withVersion site.fresh)))
  | .replaceRecord cluster, site => site.replace cluster
  | call, site => (.ok (site.store.perform call).1, site.commit call)

def answer (site : Site τ) (call : ClusterCall) : Fate → Except Failure call.Result × Site τ
  | .carriedOut => site.perform call
  | .refused failure => (.error failure, site)
  | .lost failure => (.error failure, (site.perform call).2)

/-- The site as the passes in a namespace find it. A call is judged by the conditions of the
namespace it is about, and everything else by those of the namespace of the pass. -/
def handle (around : Surroundings τ) (own : String) : Handler (Site τ)
  | .cluster call, site =>
      let place := call.space?.getD own
      let judged := around.judge call.unversioned (site.conditions place)
      (site.withConditions place judged.2).answer call judged.1
  | .send request, site =>
      let replied := around.reply request (site.conditions own)
      (replied.1, site.withConditions own replied.2)
  | .now, site =>
      let shown := around.clock (site.conditions own)
      (shown.1, site.withConditions own shown.2)
  | .measure _, site => ((), site)
  | .nudge, site => ((), site)
  | .trigger _ _, site => (true, site)

variable {around : Surroundings τ} {own : String} {site first second : Site τ}

theorem handle_call {call : ClusterCall} (concerns : call.space? = some place) :
    handle around own (.cluster call) site =
      (site.withConditions place
          (around.judge call.unversioned (site.conditions place)).2).answer call
        (around.judge call.unversioned (site.conditions place)).1 := by
  unfold handle
  simp only [concerns, Option.getD_some]
  rfl

theorem share_withConditions_of_ne (conditions : τ) (different : place ≠ space) :
    (site.withConditions space conditions).share place = site.share place := by
  unfold share withConditions
  simp only [if_neg different]

section Elsewhere

variable {call : ClusterCall} (concerns : call.space? = some space) (different : place ≠ space)

include concerns different

theorem share_commit_of_ne : (site.commit call).share place = site.share place := by
  unfold share commit
  simp only
  rw [Store.recordsIn_perform_of_ne concerns different,
    Store.secretsIn_perform_of_ne concerns different]

theorem share_perform_of_ne : (site.perform call).2.share place = site.share place := by
  cases call with
  | createRecord cluster =>
      have stamped : (ClusterCall.createRecord (cluster.withVersion site.fresh)).space? =
          some space := concerns
      exact share_commit_of_ne stamped different
  | replaceRecord cluster =>
      have stamped : (ClusterCall.replaceRecord (cluster.withVersion site.fresh)).space? =
          some space := concerns
      change (site.replace cluster).2.share place = site.share place
      unfold replace
      split
      · rfl
      · split
        · exact share_commit_of_ne stamped different
        · rfl
  | _ => exact share_commit_of_ne concerns different

end Elsewhere

/-- An effect that concerns a namespace leaves the shares of all others alone. -/
theorem share_handle_of_ne {effect : Effect} (concerns : effect.concerns own)
    (different : place ≠ own) :
    (handle around own effect site).2.share place = site.share place := by
  cases effect with
  | cluster call =>
      rw [handle_call concerns]
      cases (around.judge call.unversioned (site.conditions own)).1 with
      | carriedOut =>
          exact (share_perform_of_ne concerns different).trans
            (share_withConditions_of_ne _ different)
      | refused failure => exact share_withConditions_of_ne _ different
      | lost failure =>
          exact (share_perform_of_ne concerns different).trans
            (share_withConditions_of_ne _ different)
  | send request => exact share_withConditions_of_ne _ different
  | now => exact share_withConditions_of_ne _ different
  | trigger space name => exact concerns.elim
  | _ => rfl

/-- Two sites have the same in a namespace, versions aside. -/
def Agree (place : String) (first second : Site τ) : Prop :=
  (first.share place).unversioned = (second.share place).unversioned

theorem agree_iff : Agree place first second ↔
    first.conditions place = second.conditions place ∧
      (first.store.recordsIn place).map unversioned =
        (second.store.recordsIn place).map unversioned ∧
      first.store.secretsIn place = second.store.secretsIn place := by
  unfold Agree share Share.unversioned
  rw [Share.mk.injEq]

theorem Agree.withConditions (agree : Agree place first second) (conditions : τ) :
    Agree place (first.withConditions place conditions)
      (second.withConditions place conditions) := by
  obtain ⟨_sameConditions, sameRecords, sameSecrets⟩ := agree_iff.mp agree
  exact agree_iff.mpr ⟨by simp [Site.withConditions], sameRecords, sameSecrets⟩

/-- Calls that are answered the same when they are carried out are answered the same under
any fate. -/
theorem Agree.answer (agree : Agree place first second) (call : ClusterCall)
    (performed : (first.perform call).1 = (second.perform call).1 ∧
      Agree place (first.perform call).2 (second.perform call).2) (fate : Fate) :
    (first.answer call fate).1 = (second.answer call fate).1 ∧
      Agree place (first.answer call fate).2 (second.answer call fate).2 := by
  cases fate with
  | carriedOut => exact performed
  | refused failure => exact ⟨rfl, agree⟩
  | lost failure => exact ⟨rfl, performed.2⟩

/-- An inquiry in a namespace is answered the same in sites that agree there, and they agree
there after it. -/
theorem Agree.inquiry (around : Surroundings τ) (agree : Agree own first second) {effect : Effect}
    (inquiry : effect.isInquiryIn own = true) :
    (handle around own effect first).1 = (handle around own effect second).1 ∧
      Agree own (handle around own effect first).2 (handle around own effect second).2 := by
  have sameConditions : first.conditions own = second.conditions own := (agree_iff.mp agree).1
  cases effect with
  | cluster call =>
      cases call with
      | getSecret space name =>
          obtain rfl : space = own := eq_of_beq inquiry
          rw [handle_call rfl, handle_call rfl, sameConditions]
          have agreed := agree.withConditions
            (around.judge (.getSecret space name) (second.conditions space)).2
          have sameSecret : first.store.secret? space name = second.store.secret? space name := by
            rw [Store.secret?_eq, Store.secret?_eq, (agree_iff.mp agree).2.2]
          exact agreed.answer (.getSecret space name) ⟨congrArg Except.ok sameSecret, agreed⟩ _
      | setAuthMethod space name method =>
          obtain rfl : space = own := eq_of_beq inquiry
          rw [handle_call rfl, handle_call rfl, sameConditions]
          have agreed := agree.withConditions
            (around.judge (.setAuthMethod space name method) (second.conditions space)).2
          refine agreed.answer (.setAuthMethod space name method) ⟨rfl, ?_⟩ _
          obtain ⟨sameAfter, sameRecords, sameSecrets⟩ := agree_iff.mp agreed
          refine agree_iff.mpr ⟨sameAfter, sameRecords, ?_⟩
          change (Store.setAuthMethod _ space name method).secretsIn space =
            (Store.setAuthMethod _ space name method).secretsIn space
          rw [Store.secretsIn_setAuthMethod, Store.secretsIn_setAuthMethod, sameSecrets]
      | _ => cases inquiry
  | send request =>
      unfold handle
      simp only
      rw [sameConditions]
      exact ⟨rfl, agree.withConditions _⟩
  | now =>
      unfold handle
      simp only
      rw [sameConditions]
      exact ⟨rfl, agree.withConditions _⟩
  | _ => cases inquiry

private theorem share_commit {call : ClusterCall}
    (unwritten : ∀ space name method, call ≠ .setAuthMethod space name method) :
    (site.commit call).share place =
      { site.share place with records := (site.store.perform call).2.recordsIn place } := by
  unfold share commit Store.secretsIn
  simp only
  rw [Store.secrets_perform unwritten]

theorem perform_mutation (site : Site τ) {mutation : Mutation} (inSpace : mutation.isIn place)
    (fits : mutation.Fits (site.store.recordsIn place)) :
    (∃ result, (site.perform (mutation.call place)).1 = Except.ok result) ∧
      (site.perform (mutation.call place)).2.share place =
        { site.share place with
          records := mutation.revise site.fresh (site.store.recordsIn place) } := by
  cases mutation with
  | create cluster =>
      have stamped : (cluster.withVersion site.fresh).space = place := inSpace
      have revised : ((site.store.create (cluster.withVersion site.fresh)).recordsIn place) =
          (Mutation.create cluster).revise site.fresh (site.store.recordsIn place) :=
        Store.recordsIn_create stamped
      refine ⟨⟨(), rfl⟩, ?_⟩
      rw [← revised]
      exact share_commit fun _ _ _ impossible => by cases impossible
  | update cluster =>
      obtain ⟨stored, found, sameVersion⟩ := fits
      have here : cluster.space = place := inSpace
      have stamped : (cluster.withVersion site.fresh).space = place := inSpace
      have revised : ((site.store.replace (cluster.withVersion site.fresh)).recordsIn place) =
          (Mutation.update cluster).revise site.fresh (site.store.recordsIn place) :=
        Store.recordsIn_replace stamped
      have replaced : site.replace cluster =
          (.ok (), site.commit (.replaceRecord (cluster.withVersion site.fresh))) := by
        unfold replace
        rw [here, found]
        simp only [sameVersion, if_true]
      change (∃ result, (site.replace cluster).1 = Except.ok result) ∧
        (site.replace cluster).2.share place = _
      rw [replaced, ← revised]
      exact ⟨⟨(), rfl⟩, share_commit fun _ _ _ impossible => by cases impossible⟩
  | delete name =>
      have revised : ((site.store.delete place name).recordsIn place) =
          (Mutation.delete name).revise site.fresh (site.store.recordsIn place) :=
        Store.recordsIn_delete name
      refine ⟨⟨(), rfl⟩, ?_⟩
      rw [← revised]
      exact share_commit fun _ _ _ impossible => by cases impossible

end Site

end ClusterDiscovery

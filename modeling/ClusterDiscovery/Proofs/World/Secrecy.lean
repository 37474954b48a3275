/-
Worlds that differ in secrets.

A world tells a secret to whoever reads it and keeps the forms that were sent; nothing else
that it answers depends on them. So worlds that differ in secrets answer in step.
-/

import ClusterDiscovery.Proofs.Credential.Secrecy
import ClusterDiscovery.Proofs.Keyed
import ClusterDiscovery.Proofs.World.Keeper

namespace ClusterDiscovery

theorem Keyed.insert_insert {α : Type} (table : Keyed α) (key : String) (first second : α) :
    (table.insert key first).insert key second = table.insert key second := by
  apply Keyed.ext_get?
  intro other
  by_cases same : other = key
  · rw [same, get?_insert_self, get?_insert_self]
  · rw [get?_insert_of_ne _ same, get?_insert_of_ne _ same, get?_insert_of_ne _ same]

namespace Secret

theorem setMethod_setMethod (secret : Secret) (first second : String) :
    (secret.setMethod first).setMethod second = secret.setMethod second := by
  unfold setMethod
  simp only [Option.getD_some, Keyed.insert_insert]

/-- Secrets of one object that are alike, and stay so when a method is written into them. -/
structure Twins (secret other : Secret) : Prop where
  metadata : secret.metadata = other.metadata
  alike : secret.Alike other
  after : ∀ method, (secret.setMethod method).Alike (other.setMethod method)

theorem Twins.setMethod {secret other : Secret} (twins : secret.Twins other) (method : String) :
    (secret.setMethod method).Twins (other.setMethod method) where
  metadata := twins.metadata
  alike := twins.after method
  after := by
    intro later
    rw [setMethod_setMethod, setMethod_setMethod]
    exact twins.after later

theorem alike_of_stringEntries {secret other : Secret} (metadata : secret.metadata = other.metadata)
    (data : secret.data = other.data)
    (entries : ∀ fields : Keyed String,
      Credential.Alike (fields.insertAll secret.stringEntries)
        (fields.insertAll other.stringEntries)) : secret.Alike other := by
  have sameUnreadable : secret.firstUnreadable? = other.firstUnreadable? := by
    unfold firstUnreadable? dataEntries
    rw [data]
  have sameTexts : secret.dataTexts = other.dataTexts := by
    unfold dataTexts dataEntries
    rw [data]
  unfold Secret.Alike fields
  rw [sameUnreadable, sameTexts, metadata]
  cases other.firstUnreadable? with
  | some key => exact .error _
  | none => exact .ok (entries _)

theorem twins_of_stringEntries {secret other : Secret} (metadata : secret.metadata = other.metadata)
    (data : secret.data = other.data)
    (entries : ∀ fields : Keyed String,
      Credential.Alike (fields.insertAll secret.stringEntries)
        (fields.insertAll other.stringEntries)) : secret.Twins other where
  metadata := metadata
  alike := alike_of_stringEntries metadata data entries
  after := by
    intro method
    have sameData : (secret.setMethod method).data = (other.setMethod method).data := by
      unfold setMethod
      rw [data]
    exact alike_of_stringEntries metadata sameData entries

end Secret

def ClusterCall.isSecretless : ClusterCall → Bool
  | .getSecret _ _ => false
  | .setAuthMethod _ _ _ => false
  | _ => true

namespace Store

def withSecrets (store : Store) (secrets : List Secret) : Store := { store with secrets := secrets }

theorem isSecretAt_eq {secret twin : Secret} (twins : secret.Twins twin) (space name : String) :
    isSecretAt space name secret = isSecretAt space name twin := by
  unfold isSecretAt
  rw [twins.metadata]

variable {store : Store} {secrets : List Secret}

theorem secret?_withSecrets (twins : List.Forall₂ Secret.Twins store.secrets secrets)
    (space name : String) :
    Option.Rel Secret.Alike (store.secret? space name)
      ((store.withSecrets secrets).secret? space name) := by
  unfold secret? withSecrets
  generalize store.secrets = own at twins
  induction twins with
  | nil => exact .none
  | @cons secret twin _ _ first _ ih =>
      simp only [List.find?_cons, ← isSecretAt_eq first]
      cases isSecretAt space name secret with
      | true => exact .some first.alike
      | false => exact ih

theorem setAuthMethod_withSecrets (twins : List.Forall₂ Secret.Twins store.secrets secrets)
    (space name method : String) :
    ∃ others, List.Forall₂ Secret.Twins (store.setAuthMethod space name method).secrets others ∧
      (store.withSecrets secrets).setAuthMethod space name method =
        (store.setAuthMethod space name method).withSecrets others := by
  refine ⟨_, ?_, rfl⟩
  unfold setAuthMethod withSecrets
  simp only
  apply List.forall₂_map_left_iff.mpr
  apply List.forall₂_map_right_iff.mpr
  refine twins.imp fun secret twin first => ?_
  rw [← isSecretAt_eq first]
  split
  · exact first.setMethod method
  · exact first

theorem perform_withSecrets (store : Store) (secrets : List Secret) {call : ClusterCall}
    (secretless : call.isSecretless = true) :
    (store.withSecrets secrets).perform call =
        ((store.perform call).1, (store.perform call).2.withSecrets secrets) ∧
      (store.perform call).2.secrets = store.secrets := by
  cases call with
  | getSecret space name => cases secretless
  | setAuthMethod space name method => cases secretless
  | createRecord cluster =>
      unfold perform create withSecrets
      simp only
      split <;> exact ⟨rfl, rfl⟩
  | _ => exact ⟨rfl, rfl⟩

/-- A store with twins of its secrets answers alike, and keeps twins of its secrets. -/
theorem perform_alike (twins : List.Forall₂ Secret.Twins store.secrets secrets)
    (call : ClusterCall) :
    Event.Alike ⟨.cluster call, Except.ok (store.perform call).1⟩
        ⟨.cluster call, Except.ok ((store.withSecrets secrets).perform call).1⟩ ∧
      ∃ others, List.Forall₂ Secret.Twins (store.perform call).2.secrets others ∧
        ((store.withSecrets secrets).perform call).2 =
          (store.perform call).2.withSecrets others := by
  by_cases secretless : call.isSecretless = true
  · obtain ⟨performed, kept⟩ := perform_withSecrets store secrets secretless
    rw [performed]
    refine ⟨.same _ ?_, secrets, ?_, rfl⟩
    · cases call <;> first | rfl | cases secretless
    · rw [kept]
      exact twins
  · cases call with
    | getSecret space name =>
        exact ⟨.secret (.ok (secret?_withSecrets twins space name)), secrets, twins, rfl⟩
    | setAuthMethod space name method =>
        exact ⟨.same _ rfl, setAuthMethod_withSecrets twins space name method⟩
    | _ => exact absurd rfl secretless

end Store

namespace World

def disguised (world : World) (secrets : List Secret) (requests : List Http.Request) : World :=
  { world with
    store := world.store.withSecrets secrets
    journal := { world.journal with requests := requests } }

/-- Worlds that differ in secrets and in what was sent. -/
def Alike (world other : World) : Prop :=
  ∃ secrets requests, List.Forall₂ Secret.Twins world.store.secrets secrets ∧
    other = world.disguised secrets requests

theorem Alike.callCluster {world other : World} (alike : world.Alike other)
    (call : ClusterCall) :
    Event.Alike ⟨.cluster call, (world.callCluster call).1⟩
        ⟨.cluster call, (other.callCluster call).1⟩ ∧
      (world.callCluster call).2.Alike (other.callCluster call).2 := by
  obtain ⟨secrets, requests, twins, rfl⟩ := alike
  unfold World.callCluster
  have sameFaults : (world.disguised secrets requests).faults = world.faults := rfl
  rw [sameFaults]
  rcases Fault.strike call world.faults with ⟨struck, faults⟩
  cases struck with
  | some failure =>
      refine ⟨?_, secrets, requests, twins, rfl⟩
      cases call with
      | getSecret space name => exact .secret (.error failure)
      | _ => exact .same _ rfl
  | none =>
      obtain ⟨event, others, still, kept⟩ := Store.perform_alike twins call
      refine ⟨event, others, requests, still, ?_⟩
      change ({ (world.disguised secrets requests).logCall call true with
        faults := faults
        store := ((world.store.withSecrets secrets).perform call).2 } : World) = _
      rw [kept]
      rfl

theorem Alike.send {world other : World} (alike : world.Alike other) (request : Http.Request)
    (instead : Http.Request) (same : world.remote.reply request = world.remote.reply instead) :
    (world.send request).1 = (other.send instead).1 ∧
      (world.send request).2.Alike (other.send instead).2 := by
  obtain ⟨secrets, requests, twins, rfl⟩ := alike
  unfold World.send
  refine ⟨same, ?_⟩
  have sameRemote : (world.disguised secrets requests).remote = world.remote := rfl
  rw [sameRemote]
  split
  · exact ⟨secrets, _, twins, rfl⟩
  · exact ⟨secrets, requests, twins, rfl⟩

/-- Worlds that differ in secrets answer in step. -/
theorem answered_handle : upToSecrets.Answered World.handle World.handle World.Alike := by
  intro first second paired world other alike
  cases paired with
  | @form url fields others forms =>
      obtain ⟨sameReply, still⟩ := alike.send (.form url fields) (.form url others) rfl
      refine ⟨?_, still⟩
      change Event.Alike ⟨.send (.form url fields), (world.send (.form url fields)).1⟩
        ⟨.send (.form url others), (other.send (.form url others)).1⟩
      rw [sameReply]
      exact .form forms _
  | same =>
      cases first with
      | cluster call => exact alike.callCluster call
      | send request =>
          obtain ⟨sameReply, still⟩ := alike.send request request rfl
          refine ⟨?_, still⟩
          change Event.Alike ⟨.send request, (world.send request).1⟩
            ⟨.send request, (other.send request).1⟩
          rw [sameReply]
          exact .same _ rfl
      | trigger space name =>
          obtain ⟨secrets, requests, twins, rfl⟩ := alike
          by_cases accepts : world.acceptsTriggers = true
          · have accepted (world : World) (accepts : world.acceptsTriggers = true) :
                World.handle (.trigger space name) world = (true, { world with journal :=
                  { world.journal with triggers := (space, name) :: world.journal.triggers } }) :=
              if_pos accepts
            rw [accepted world accepts, accepted (world.disguised secrets requests) accepts]
            exact ⟨.same _ rfl, secrets, requests, twins, rfl⟩
          · have rejected (world : World) (rejects : ¬ world.acceptsTriggers = true) :
                World.handle (.trigger space name) world = (false, world) := if_neg rejects
            rw [rejected world accepts, rejected (world.disguised secrets requests) accepts]
            exact ⟨.same _ rfl, secrets, requests, twins, rfl⟩
      | _ =>
          obtain ⟨secrets, requests, twins, rfl⟩ := alike
          exact ⟨.same _ rfl, secrets, requests, twins, rfl⟩

end World

namespace Sample

def fieldsWith (token : String) : Keyed String := Keyed.empty.insert Credential.tokenKey token

def secretWith (token : String) : Secret := { secret with stringData := some (fieldsWith token) }

def keeping (token : String) : World :=
  { world [record "a"] with
    store := { Store.empty with records := [record "a"], secrets := [secretWith token] }
    remote := ⟨true, granted, .scripted []⟩ }

theorem alike_insertAll (fields : Keyed String) {token other : String}
    (present : Text.trim token ≠ "") (alsoPresent : Text.trim other ≠ "") :
    Credential.Alike (fields.insertAll (secretWith token).stringEntries)
      (fields.insertAll (secretWith other).stringEntries) := by
  have lookup (token key : String) :
      (fields.insertAll (secretWith token).stringEntries).get? key =
        if key = Credential.tokenKey then some token else fields.get? key := by
    change (fields.insert Credential.tokenKey token).get? key = _
    split
    · rename_i same
      rw [same, Keyed.get?_insert_self]
    · rename_i different
      exact Keyed.get?_insert_of_ne _ different _
  constructor
  · intro key known
    have different : key ≠ Credential.tokenKey := by
      rintro rfl
      exact known List.mem_cons_self
    rw [lookup, lookup, if_neg different, if_neg different]
  · intro key _known
    unfold Credential.field?
    rw [lookup, lookup]
    by_cases same : key = Credential.tokenKey
    · simp [same, bne_iff_ne.mpr present, bne_iff_ne.mpr alsoPresent]
    · simp [same]

theorem alike_keeping {token other : String} (present : Text.trim token ≠ "")
    (alsoPresent : Text.trim other ≠ "") : (keeping token).Alike (keeping other) := by
  have twins : (secretWith token).Twins (secretWith other) :=
    Secret.twins_of_stringEntries rfl rfl fun fields =>
      alike_insertAll fields present alsoPresent
  exact ⟨[secretWith other], [], .cons twins .nil, rfl⟩

end Sample

end ClusterDiscovery

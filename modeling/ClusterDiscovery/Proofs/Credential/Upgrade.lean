/-
Upgrades of credentials.

Fields that name no method but hold a service account are upgraded: the pass uses the service
account and writes its method back. Fields that name the method they were resolved by are resolved
in the same way again, without an upgrade. The patch of a secret puts the method among its texts,
which override its data, so that is what the fields of the secret name afterwards.
-/

import ClusterDiscovery.Credential.Secret
import ClusterDiscovery.Hub.Document
import ClusterDiscovery.Hub.Request
import ClusterDiscovery.Proofs.Json.Merge

namespace ClusterDiscovery

namespace Credential

def Blank (fields : Keyed String) (key : String) : Prop :=
  ∀ text, fields.get? key = some text → Text.trim text = ""

def Holds (fields : Keyed String) (key value : String) : Prop :=
  ∃ text, fields.get? key = some text ∧ Text.trim text = value ∧ value ≠ ""

variable {fields : Keyed String} {key value : String}

theorem field?_eq_some_iff : field? fields key = some value ↔ Holds fields key value := by
  unfold field? Holds
  rw [Option.filter_eq_some_iff, Option.map_eq_some_iff, bne_iff_ne]
  constructor
  · rintro ⟨⟨text, found, trimmed⟩, present⟩
    exact ⟨text, found, trimmed, present⟩
  · rintro ⟨text, found, trimmed, present⟩
    exact ⟨⟨text, found, trimmed⟩, present⟩

theorem field?_eq_none_iff : field? fields key = none ↔ Blank fields key := by
  rw [Option.eq_none_iff_forall_ne_some]
  constructor
  · intro none text found
    by_cases blank : Text.trim text = ""
    · exact blank
    · exact absurd (field?_eq_some_iff.mpr ⟨text, found, rfl, blank⟩) (none _)
  · intro blank value found
    obtain ⟨text, known, trimmed, present⟩ := field?_eq_some_iff.mp found
    exact present (trimmed.symm.trans (blank text known))

theorem field?_insert_self (present : Text.trim value ≠ "") :
    field? (fields.insert key value) key = some (Text.trim value) :=
  field?_eq_some_iff.mpr ⟨value, Keyed.get?_insert_self _ _ _, rfl, present⟩

theorem field?_insert_of_ne {other : String} (different : other ≠ key) :
    field? (fields.insert key value) other = field? fields other := by
  unfold field?
  rw [Keyed.get?_insert_of_ne _ different]

theorem ofMethod_insert (name method : String) :
    ofMethod (fields.insert methodKey name) method = ofMethod fields method := by
  unfold ofMethod
  rw [field?_insert_of_ne (by decide : tokenKey ≠ methodKey),
    field?_insert_of_ne (by decide : clientIdKey ≠ methodKey),
    field?_insert_of_ne (by decide : clientSecretKey ≠ methodKey)]

theorem name_of_ofMethod {name : String} {method : AuthMethod}
    (made : ofMethod fields name = .ok method) : method.name = name := by
  unfold ofMethod at made
  split at made
  · rename_i offline
    split at made
    · cases made
      exact offline.symm
    · cases made
  · split at made
    · rename_i account
      split at made
      · cases made
        exact account.symm
      · cases made
    · cases made

theorem trim_name (method : AuthMethod) :
    Text.trim method.name = method.name ∧ method.name ≠ "" := by
  cases method with
  | offlineToken token =>
      exact (by decide +kernel : Text.trim AuthMethod.offlineTokenName =
        AuthMethod.offlineTokenName ∧ AuthMethod.offlineTokenName ≠ "")
  | serviceAccount clientId clientSecret =>
      exact (by decide +kernel : Text.trim AuthMethod.serviceAccountName =
        AuthMethod.serviceAccountName ∧ AuthMethod.serviceAccountName ≠ "")

theorem resolve_eq_ok_iff {resolved : ResolvedCredential} :
    resolve fields = .ok resolved ↔
      ofMethod fields (chosenMethod fields).1 = .ok resolved.method ∧
        (chosenMethod fields).2 = resolved.upgraded := by
  unfold resolve
  cases ofMethod fields (chosenMethod fields).1 with
  | error failure => simp [Except.map]
  | ok method =>
      cases resolved
      simp [Except.map]

/-- Fields that name the method they were resolved by are not upgraded. -/
theorem resolve_insert_name {resolved : ResolvedCredential}
    (resolves : resolve fields = .ok resolved) :
    resolve (fields.insert methodKey resolved.method.name) = .ok ⟨resolved.method, false⟩ := by
  obtain ⟨made, _upgraded⟩ := resolve_eq_ok_iff.mp resolves
  obtain ⟨trimmed, present⟩ := trim_name resolved.method
  have chosen : chosenMethod (fields.insert methodKey resolved.method.name) =
      (resolved.method.name, false) := by
    have named : Text.trim resolved.method.name ≠ "" := by
      rw [trimmed]
      exact present
    unfold chosenMethod
    rw [field?_insert_self named, trimmed]
  rw [resolve_eq_ok_iff, chosen, ofMethod_insert, name_of_ofMethod made]
  exact ⟨made, rfl⟩

theorem chosenMethod_upgrades_iff : (chosenMethod fields).2 = true ↔
    Blank fields methodKey ∧ (∃ id, Holds fields clientIdKey id) ∧
      ∃ secret, Holds fields clientSecretKey secret := by
  simp only [← field?_eq_none_iff, ← field?_eq_some_iff, ← Option.isSome_iff_exists]
  unfold chosenMethod hasServiceAccount
  cases field? fields methodKey with
  | some method => simp
  | none => cases field? fields clientIdKey <;> cases field? fields clientSecretKey <;> simp

/-- Fields without a method that hold a service account are resolved to it, whatever else they
hold. -/
theorem resolve_of_serviceAccount {id secret : String} (unnamed : Blank fields methodKey)
    (account : Holds fields clientIdKey id) (password : Holds fields clientSecretKey secret) :
    resolve fields = .ok ⟨.serviceAccount id secret, true⟩ := by
  have upgrades : chosenMethod fields = (AuthMethod.serviceAccountName, true) := by
    unfold chosenMethod hasServiceAccount
    rw [field?_eq_none_iff.mpr unnamed, field?_eq_some_iff.mpr account,
      field?_eq_some_iff.mpr password]
    rfl
  rw [resolve_eq_ok_iff, upgrades]
  refine ⟨?_, rfl⟩
  unfold ofMethod
  rw [if_neg (by decide), if_pos rfl, field?_eq_some_iff.mpr account,
    field?_eq_some_iff.mpr password]

end Credential

namespace Secret

/-- Two secrets hold the same, though their metadata may differ. -/
structure SameContent (secret other : Secret) : Prop where
  data : other.data = secret.data
  texts : other.stringData = secret.stringData

def mergeMethod (secret : Secret) (method : String) : Secret :=
  { secret with
    stringData := some ((secret.stringData.getD .empty).insert Credential.methodKey method) }

def texts (secret : Secret) : Option (Keyed String) := secret.fields.toOption

variable {secret other : Secret}

theorem resolves_iff {resolved : ResolvedCredential} :
    secret.fields.bind Credential.resolve = .ok resolved ↔
      ∃ fields, secret.texts = some fields ∧ Credential.resolve fields = .ok resolved := by
  unfold texts
  cases secret.fields with
  | error failure => simp [Except.bind, Except.toOption]
  | ok fields => simp [Except.bind, Except.toOption]

theorem texts_eq (secret : Secret) : secret.texts =
    if secret.firstUnreadable? = none then
      some ((Keyed.ofList secret.dataTexts).insertAll secret.stringEntries)
    else none := by
  unfold texts fields
  cases secret.firstUnreadable? with
  | some key => rfl
  | none => rfl

theorem SameContent.texts_eq (same : secret.SameContent other) : other.texts = secret.texts := by
  have sameData : other.dataEntries = secret.dataEntries := by
    unfold dataEntries
    rw [same.data]
  rw [Secret.texts_eq, Secret.texts_eq]
  unfold firstUnreadable? dataTexts stringEntries
  rw [sameData, same.texts]

/-- A method that is merged into the texts of a secret is among its fields, whatever stands in its
data. -/
theorem texts_mergeMethod (secret : Secret) (method : String) :
    (secret.mergeMethod method).texts =
      secret.texts.map fun fields => fields.insert Credential.methodKey method := by
  have entries : secret.stringEntries = (secret.stringData.getD .empty).entries := by
    unfold stringEntries
    cases secret.stringData <;> rfl
  have merged : (secret.mergeMethod method).stringEntries =
      ((secret.stringData.getD .empty).insert Credential.methodKey method).entries := rfl
  rw [texts_eq, texts_eq, entries, merged, Keyed.insertAll_insert]
  change (if secret.firstUnreadable? = none then _ else _) = _
  split <;> rfl

end Secret

namespace Hub

open Json

variable {document : Value} {secret : Secret}

private theorem allAre_iff {entries : List (String × Value)}
    (distinct : (entries.map Prod.fst).Nodup) (name text : String) :
    allAre entries name text = true ↔
      ∀ found, (Value.record entries).member? name = some found → found = .string text := by
  unfold allAre
  rw [List.all_eq_true, Value.member?_record]
  constructor
  · intro all found known
    have fits := all _ ((Keyed.lookup_eq_some_iff distinct).mp known)
    exact readText_eq_some_iff.mp (by simpa using fits)
  · intro fits entry member
    by_cases own : entry.1 = name
    · have known := (Keyed.lookup_eq_some_iff distinct).mpr
        (show (entry.1, entry.2) ∈ entries from member)
      rw [own] at known
      simp [readText_eq_some_iff.mpr (fits _ known)]
    · simp [own]

theorem readSecret_eq_some_iff (isTable : document.IsTable) :
    readSecret document = some secret ↔
      (∀ found, document.member? "apiVersion" = some found → found = .string "v1") ∧
      (∀ found, document.member? "kind" = some found → found = .string "Secret") ∧
      (∃ immutable, optional readBool (document.member? "immutable") = some immutable) ∧
      (∃ kind, optional readText (document.member? "type") = some kind) ∧
      (∃ metadata, optional (Metadata.readWithin (depthLimit - 1)) (document.member? "metadata") =
        some metadata ∧ secret.metadata = metadata.getD .empty) ∧
      optional (readTable readBytes) (document.member? "data") = some secret.data ∧
      optional (readTable readText) (document.member? "stringData") = some secret.stringData := by
  obtain ⟨entries, rfl, distinct⟩ := isTable.exists_record
  have last {α : Type} (read : Reader α) (name : String) :
      lastMember? read entries name = optional read ((Value.record entries).member? name) := by
    rw [lastMember?_of_nodup distinct, Value.member?_record]
  rw [← allAre_iff distinct, ← allAre_iff distinct, ← and_assoc, ← Bool.and_eq_true]
  unfold readSecret
  have members : readMembers (.record entries) = some entries := namedMembers?_named entries
  rw [members, Option.bind_eq_bind, Option.bind_some]
  by_cases fits : (allAre entries "apiVersion" "v1" && allAre entries "kind" "Secret") = true
  · rw [if_pos fits]
    simp only [Option.bind_eq_bind, Option.bind_eq_some_iff, last, fits, true_and]
    constructor
    · rintro ⟨immutable, readImmutable, kind, readKind, metadata, readMetadata, data, readData,
        texts, readTexts, same⟩
      cases same
      exact ⟨⟨_, readImmutable⟩, ⟨_, readKind⟩, ⟨_, readMetadata, rfl⟩, readData, readTexts⟩
    · rintro ⟨⟨immutable, readImmutable⟩, ⟨kind, readKind⟩, ⟨metadata, readMetadata, same⟩,
        readData, readTexts⟩
      refine ⟨_, readImmutable, _, readKind, _, readMetadata, _, readData, _, readTexts, ?_⟩
      rw [← same]
  · rw [if_neg fits]
    simp [fits]

/-- The patch of a method puts it among the texts of the secret that is read of a document, and
leaves its data and its metadata as they are. -/
theorem readSecret_merge_methodPatch (isTable : document.IsTable)
    (tidy : ∀ value, document.member? "stringData" = some value → value = .null ∨ value.IsTable)
    (read : readSecret document = some secret) (method : String) :
    readSecret (document.merge (methodPatch method)) = some (secret.mergeMethod method) := by
  obtain ⟨version, kind, immutable, type, metadata, data, texts⟩ :=
    (readSecret_eq_some_iff isTable).mp read
  obtain ⟨merges, shown⟩ := texts_of_optional texts tidy
  have distinct : ([("stringData", Value.record [(Credential.methodKey, .string method)])].map
      Prod.fst).Nodup := List.nodup_singleton _
  have elsewhere {name : String} (notTexts : name ≠ "stringData") :
      (document.merge (methodPatch method)).member? name = document.member? name := by
    refine document.member?_merge_of_not_mem _ distinct ?_
    simpa using notTexts
  have atTexts : (document.merge (methodPatch method)).member? "stringData" =
      some (((document.member? "stringData").getD .null).merge
        (.record [(Credential.methodKey, .string method)])) := by
    refine (document.member?_merge _ distinct "stringData").trans ?_
    rw [List.lookup_cons_self]
    rfl
  have readTexts : readTable readText (((document.member? "stringData").getD .null).merge
      (.record [(Credential.methodKey, .string method)])) =
        some ((secret.stringData.getD .empty).insert Credential.methodKey method) := by
    rw [readTable_readText_eq_some_iff (merges _)]
    intro name
    have onceNamed : ([(Credential.methodKey, Value.string method)].map Prod.fst).Nodup :=
      List.nodup_singleton _
    rw [Value.member?_merge _ _ onceNamed]
    by_cases own : name = Credential.methodKey
    · rw [own, List.lookup_cons_self, Keyed.get?_insert_self]
      rfl
    · have other : (name == Credential.methodKey) = false := beq_eq_false_iff_ne.mpr own
      rw [List.lookup_cons, other, Keyed.get?_insert_of_ne _ own]
      exact shown name
  have mergedTable : (document.merge (methodPatch method)).IsTable := isTable.merge _
  rw [readSecret_eq_some_iff mergedTable, elsewhere (by decide), elsewhere (by decide),
    elsewhere (by decide), elsewhere (by decide), elsewhere (by decide), elsewhere (by decide),
    atTexts, optional_of_isTable (merges _), readTexts]
  exact ⟨version, kind, immutable, type, metadata, data, rfl⟩

end Hub

end ClusterDiscovery

/-
What the resolution of a credential depends on.

The fields of a secret can be read if all its bytes spell texts, and then a key shows its text, or
else the text that its bytes spell. Otherwise the failure names the least key whose bytes do not,
though a text may override it. A credential is resolved from what is left of the values of four
keys when they are trimmed. So two secrets that offer the same under these keys are resolved alike,
whatever else they hold.
-/

import ClusterDiscovery.Proofs.Credential.Upgrade
import ClusterDiscovery.Proofs.Text.WellFormed

namespace ClusterDiscovery

namespace Secret

def bytes? (secret : Secret) (key : String) : Option (List UInt8) :=
  secret.data.bind fun data => data.get? key

def text? (secret : Secret) (key : String) : Option String :=
  secret.stringData.bind fun texts => texts.get? key

/-- All bytes of a secret spell texts. -/
def Readable (secret : Secret) : Prop :=
  ∀ key bytes, secret.bytes? key = some bytes → bytes.toByteArray.IsValidUTF8

/-- The least key whose bytes spell no text. -/
structure LeastUnreadable (secret : Secret) (key : String) : Prop where
  unreadable : ∃ bytes, secret.bytes? key = some bytes ∧ ¬ bytes.toByteArray.IsValidUTF8
  least : ∀ other bytes, other < key → secret.bytes? other = some bytes →
    bytes.toByteArray.IsValidUTF8

/-- A key shows its text, or else the text that its bytes spell. -/
def Shows (secret : Secret) (key text : String) : Prop :=
  secret.text? key = some text ∨
    secret.text? key = none ∧ secret.bytes? key = some (Text.Utf8.encode text)

/-- What is left of what a key shows when it is trimmed, and that is something. -/
def Offers (secret : Secret) (key value : String) : Prop :=
  ∃ text, secret.Shows key text ∧ Text.trim text = value ∧ value ≠ ""

def OffersServiceAccount (secret : Secret) : Prop :=
  (∃ id, secret.Offers Credential.clientIdKey id) ∧
    ∃ password, secret.Offers Credential.clientSecretKey password

/-- The method that a secret names, or the one that it implies if it names none. -/
inductive Selects (secret : Secret) : String → Prop
  | named {method : String} : secret.Offers Credential.methodKey method → Selects secret method
  | account : (∀ method, ¬ secret.Offers Credential.methodKey method) →
      secret.OffersServiceAccount → Selects secret AuthMethod.serviceAccountName
  | token : (∀ method, ¬ secret.Offers Credential.methodKey method) →
      ¬ secret.OffersServiceAccount → Selects secret AuthMethod.offlineTokenName

variable {secret : Secret} {key method : String} {bytes : List UInt8} {fields : Keyed String}
  {failure : Failure}

theorem bytes?_eq_some_iff :
    secret.bytes? key = some bytes ↔ (key, bytes) ∈ secret.dataEntries := by
  unfold bytes? dataEntries
  cases secret.data with
  | none => simp
  | some data => exact Keyed.get?_eq_some_iff

theorem ascending_dataEntries (secret : Secret) : Ascending secret.dataEntries := by
  unfold dataEntries
  cases secret.data with
  | none => exact List.Pairwise.nil
  | some data => exact data.ascending

theorem nodup_keys_dataEntries (secret : Secret) : (secret.dataEntries.map Prod.fst).Nodup := by
  unfold dataEntries
  cases secret.data with
  | none => exact List.nodup_nil
  | some data => exact data.nodup_keys

theorem lookup_stringEntries (secret : Secret) (key : String) :
    secret.stringEntries.reverse.lookup key = secret.text? key := by
  unfold stringEntries text?
  cases secret.stringData with
  | none => rfl
  | some texts => exact texts.lookup_reverse_entries key

theorem isNone_decode?_iff :
    (Text.Utf8.decode? bytes).isNone = true ↔ ¬ bytes.toByteArray.IsValidUTF8 := by
  rw [← Text.Utf8.isSome_decode?_iff, Bool.not_eq_true, Option.isSome_eq_false_iff]

theorem firstUnreadable?_eq_none_iff : secret.firstUnreadable? = none ↔ secret.Readable := by
  unfold firstUnreadable?
  rw [Option.map_eq_none_iff, List.find?_eq_none]
  constructor
  · intro readable key bytes found
    have fits := readable (key, bytes) (bytes?_eq_some_iff.mp found)
    rw [isNone_decode?_iff] at fits
    exact not_not.mp fits
  · intro readable entry member
    rw [isNone_decode?_iff, not_not]
    exact readable entry.1 entry.2 (bytes?_eq_some_iff.mpr member)

/-- The entries are in the order of their keys, so those before the first one without a text are
those with lesser keys. -/
theorem firstUnreadable?_eq_some_iff :
    secret.firstUnreadable? = some key ↔ secret.LeastUnreadable key := by
  unfold firstUnreadable?
  rw [Option.map_eq_some_iff]
  constructor
  · rintro ⟨⟨name, bytes⟩, found, rfl⟩
    obtain ⟨noText, before, after, entries, texts⟩ := List.find?_eq_some_iff_append.mp found
    have ascending := secret.ascending_dataEntries
    rw [entries, Ascending, List.pairwise_append] at ascending
    refine ⟨⟨bytes, bytes?_eq_some_iff.mpr ?_, isNone_decode?_iff.mp noText⟩, ?_⟩
    · rw [entries]
      simp
    · intro other others smaller found
      rw [bytes?_eq_some_iff, entries, List.mem_append, List.mem_cons] at found
      rcases found with earlier | same | later
      · have fits := texts _ earlier
        rw [Bool.not_eq_eq_eq_not, Bool.not_true, ← Bool.not_eq_true, isNone_decode?_iff] at fits
        exact not_not.mp fits
      · cases same
        exact absurd smaller (String.lt_irrefl _)
      · have greater : name < other := (List.pairwise_cons.mp ascending.2.1).1 _ later
        exact absurd smaller (String.lt_asymm greater)
  · rintro ⟨⟨bytes, found, noText⟩, least⟩
    refine ⟨(key, bytes), ?_, rfl⟩
    rw [bytes?_eq_some_iff] at found
    obtain ⟨before, after, entries⟩ := List.append_of_mem found
    have ascending := secret.ascending_dataEntries
    rw [entries, Ascending, List.pairwise_append] at ascending
    refine List.find?_eq_some_iff_append.mpr
      ⟨isNone_decode?_iff.mpr noText, before, after, entries, ?_⟩
    intro entry earlier
    have known : secret.bytes? entry.1 = some entry.2 := by
      rw [bytes?_eq_some_iff, entries]
      exact List.mem_append_left _ earlier
    have smaller : entry.1 < key := ascending.2.2 _ earlier _ List.mem_cons_self
    rw [Bool.not_eq_eq_eq_not, Bool.not_true, ← Bool.not_eq_true, isNone_decode?_iff, not_not]
    exact least _ _ smaller known

theorem exists_fields_iff : (∃ fields, secret.fields = .ok fields) ↔ secret.Readable := by
  rw [← firstUnreadable?_eq_none_iff]
  unfold Secret.fields
  cases secret.firstUnreadable? with
  | none => simp
  | some key => simp

theorem fields_eq_error_iff : secret.fields = .error failure ↔
    ∃ key, secret.LeastUnreadable key ∧
      failure = .credentialUnavailable (secret.metadata.name.getD "")
        s!"key {key} is not valid UTF-8" := by
  simp only [← firstUnreadable?_eq_some_iff]
  unfold Secret.fields
  cases secret.firstUnreadable? with
  | none => simp
  | some key => simp [eq_comm]

theorem lookup_dataTexts (secret : Secret) (key : String) :
    secret.dataTexts.reverse.lookup key = (secret.bytes? key).bind Text.Utf8.decode? := by
  have distinctBytes := secret.nodup_keys_dataEntries
  have sublist : (secret.dataTexts.map Prod.fst).Sublist (secret.dataEntries.map Prod.fst) := by
    unfold dataTexts
    induction secret.dataEntries with
    | nil => exact List.Sublist.refl _
    | cons entry rest ih =>
        rw [List.filterMap_cons]
        cases Text.Utf8.decode? entry.2 with
        | none => exact ih.cons _
        | some text => exact ih.cons_cons _
  rw [Keyed.lookup_reverse (distinctBytes.sublist sublist)]
  refine Option.ext fun text => ?_
  rw [Keyed.lookup_eq_some_iff (distinctBytes.sublist sublist), Option.bind_eq_some_iff]
  unfold dataTexts
  simp only [List.mem_filterMap, Option.map_eq_some_iff, Prod.mk.injEq, bytes?_eq_some_iff]
  constructor
  · rintro ⟨entry, member, found, decoded, rfl, rfl⟩
    exact ⟨entry.2, member, decoded⟩
  · rintro ⟨bytes, member, decoded⟩
    exact ⟨(key, bytes), member, text, decoded, rfl, rfl⟩

theorem get?_fields_iff (read : secret.fields = .ok fields) (key text : String) :
    fields.get? key = some text ↔ secret.Shows key text := by
  have same : fields = (Keyed.ofList secret.dataTexts).insertAll secret.stringEntries := by
    unfold Secret.fields at read
    split at read
    · cases read
    · exact (Except.ok.inj read).symm
  unfold Shows
  rw [same, Keyed.get?_insertAll, Keyed.get?_ofList, lookup_stringEntries, lookup_dataTexts,
    Option.or_eq_some_iff, Option.bind_eq_some_iff]
  simp only [Text.Utf8.decode?_eq_some_iff]
  simp

theorem holds_iff_offers (read : secret.fields = .ok fields) (key value : String) :
    Credential.Holds fields key value ↔ secret.Offers key value := by
  unfold Credential.Holds Offers
  simp only [get?_fields_iff read]

theorem field?_eq_none_iff_offers (read : secret.fields = .ok fields) (key : String) :
    Credential.field? fields key = none ↔ ∀ value, ¬ secret.Offers key value := by
  rw [Option.eq_none_iff_forall_ne_some]
  simp only [ne_eq, Credential.field?_eq_some_iff, holds_iff_offers read]

theorem isSome_field?_iff_offers (read : secret.fields = .ok fields) (key : String) :
    (Credential.field? fields key).isSome = true ↔ ∃ value, secret.Offers key value := by
  rw [Option.isSome_iff_exists]
  simp only [Credential.field?_eq_some_iff, holds_iff_offers read]

theorem hasServiceAccount_iff (read : secret.fields = .ok fields) :
    Credential.hasServiceAccount fields = true ↔ secret.OffersServiceAccount := by
  unfold Credential.hasServiceAccount OffersServiceAccount
  rw [Bool.and_eq_true, isSome_field?_iff_offers read, isSome_field?_iff_offers read]

theorem selects_iff (read : secret.fields = .ok fields) :
    secret.Selects method ↔ method = (Credential.chosenMethod fields).1 := by
  have named (value : String) : Credential.field? fields Credential.methodKey = some value ↔
      secret.Offers Credential.methodKey value :=
    Credential.field?_eq_some_iff.trans (holds_iff_offers read _ value)
  have unnamed := field?_eq_none_iff_offers read Credential.methodKey
  have account := hasServiceAccount_iff read
  unfold Credential.chosenMethod
  cases found : Credential.field? fields Credential.methodKey with
  | some value =>
      constructor
      · intro selects
        cases selects with
        | named offers =>
            rw [← named, found] at offers
            exact (Option.some.inj offers).symm
        | account nothing _both => exact absurd ((named value).mp found) (nothing value)
        | token nothing _lacking => exact absurd ((named value).mp found) (nothing value)
      · rintro rfl
        exact .named ((named _).mp found)
  | none =>
      have nothing := unnamed.mp found
      by_cases both : secret.OffersServiceAccount
      · rw [if_pos (account.mpr both)]
        constructor
        · intro selects
          cases selects with
          | named offers => exact absurd offers (nothing _)
          | account _nothing _both => rfl
          | token _nothing lacking => exact absurd both lacking
        · rintro rfl
          exact .account nothing both
      · rw [if_neg (account.not.mpr both)]
        constructor
        · intro selects
          cases selects with
          | named offers => exact absurd offers (nothing _)
          | account _nothing complete => exact absurd complete both
          | token _nothing _lacking => rfl
        · rintro rfl
          exact .token nothing both

end Secret

namespace Credential

def keys : List String := [methodKey, tokenKey, clientIdKey, clientSecretKey]

variable {fields first second : Keyed String} {method : String}

theorem ofMethod_congr (same : ∀ key ∈ keys, field? first key = field? second key)
    (method : String) : ofMethod first method = ofMethod second method := by
  unfold ofMethod
  rw [same tokenKey (by decide), same clientIdKey (by decide), same clientSecretKey (by decide)]

theorem chosenMethod_congr (same : ∀ key ∈ keys, field? first key = field? second key) :
    chosenMethod first = chosenMethod second := by
  unfold chosenMethod hasServiceAccount
  rw [same methodKey (by decide), same clientIdKey (by decide), same clientSecretKey (by decide)]

theorem resolve_congr (same : ∀ key ∈ keys, field? first key = field? second key) :
    resolve first = resolve second := by
  unfold resolve
  rw [chosenMethod_congr same, ofMethod_congr same]

theorem exists_ofMethod_iff : (∃ made, ofMethod fields method = .ok made) ↔
    method = AuthMethod.offlineTokenName ∧ (field? fields tokenKey).isSome = true ∨
      method = AuthMethod.serviceAccountName ∧ hasServiceAccount fields = true := by
  unfold ofMethod
  by_cases offline : method = AuthMethod.offlineTokenName
  · have other : method ≠ AuthMethod.serviceAccountName := by
      rw [offline]
      decide
    rw [if_pos offline]
    cases field? fields tokenKey with
    | none => simp [other]
    | some token => simp [offline]
  · rw [if_neg offline]
    by_cases account : method = AuthMethod.serviceAccountName
    · rw [if_pos account]
      unfold hasServiceAccount
      cases field? fields clientIdKey with
      | none => simp [offline]
      | some id =>
          cases field? fields clientSecretKey with
          | none => simp [offline]
          | some password => simp [account]
    · rw [if_neg account]
      simp [offline, account]

theorem exists_resolve_iff : (∃ resolved, resolve fields = .ok resolved) ↔
    ∃ made, ofMethod fields (chosenMethod fields).1 = .ok made := by
  unfold resolve
  cases ofMethod fields (chosenMethod fields).1 with
  | error failure => simp [Except.map]
  | ok made => simp [Except.map]

end Credential

open Credential in
/-- The fields of a secret can be read exactly if all its bytes spell texts, its texts override
them key by key, and a failure names the least key whose bytes do not. Secrets that offer the same
under the keys of credentials are resolved alike, and with success exactly if what the selected
method requires is on offer. -/
theorem Secret.resolution_reads_credential_keys :
    (∀ secret : Secret, (∃ fields, secret.fields = .ok fields) ↔ secret.Readable) ∧
    (∀ (secret : Secret) fields, secret.fields = .ok fields →
      ∀ key text, fields.get? key = some text ↔ secret.Shows key text) ∧
    (∀ (secret : Secret) failure, secret.fields = .error failure ↔
      ∃ key, secret.LeastUnreadable key ∧
        failure = .credentialUnavailable (secret.metadata.name.getD "")
          s!"key {key} is not valid UTF-8") ∧
    (∀ (one other : Secret) first second,
      one.fields = .ok first → other.fields = .ok second →
      (∀ key ∈ keys, ∀ value, one.Offers key value ↔ other.Offers key value) →
      resolve first = resolve second) ∧
    ∀ (secret : Secret) fields, secret.fields = .ok fields →
      ((∃ resolved, resolve fields = .ok resolved) ↔
        secret.Selects AuthMethod.offlineTokenName ∧ (∃ token, secret.Offers tokenKey token) ∨
        secret.Selects AuthMethod.serviceAccountName ∧ secret.OffersServiceAccount) := by
  refine ⟨fun secret => exists_fields_iff, fun secret fields read => get?_fields_iff read,
    fun secret failure => fields_eq_error_iff, ?_, ?_⟩
  · intro one other first second readOne readOther agree
    refine resolve_congr fun key credential => Option.ext fun value => ?_
    rw [field?_eq_some_iff, field?_eq_some_iff, holds_iff_offers readOne,
      holds_iff_offers readOther]
    exact agree key credential value
  · intro secret fields read
    rw [exists_resolve_iff, exists_ofMethod_iff, selects_iff read, selects_iff read,
      isSome_field?_iff_offers read, hasServiceAccount_iff read]
    simp only [eq_comm]

end ClusterDiscovery

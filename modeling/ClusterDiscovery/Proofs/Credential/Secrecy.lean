/-
Credentials that differ in their secrets.

Two of the fields of a credential are secret, and what is resolved of the others does not depend
on them: only whether a secret is blank matters. A secret is written into one field of a form
and nowhere else. Two runs are the same up to secrets if only the secrets that are read and
these fields of the forms that are sent differ.
-/

import ClusterDiscovery.Credential.Secret
import ClusterDiscovery.Proofs.Program.Lockstep

namespace ClusterDiscovery

namespace Credential

def secretKeys : List String := [tokenKey, clientSecretKey]

/-- Fields that differ in nothing but the values of secret keys, each of which is blank in both
or in neither. -/
structure Alike (fields others : Keyed String) : Prop where
  same : ∀ key, key ∉ secretKeys → fields.get? key = others.get? key
  present : ∀ key ∈ secretKeys, (field? fields key).isSome = (field? others key).isSome

variable {fields others : Keyed String}

theorem Alike.field?_eq (alike : Alike fields others) (key : String) (known : key ∉ secretKeys) :
    field? fields key = field? others key := by
  unfold field?
  rw [alike.same key known]

theorem Alike.hasServiceAccount_eq (alike : Alike fields others) :
    hasServiceAccount fields = hasServiceAccount others := by
  unfold hasServiceAccount
  rw [alike.field?_eq clientIdKey (by decide), alike.present clientSecretKey (by decide)]

theorem Alike.chosenMethod_eq (alike : Alike fields others) :
    chosenMethod fields = chosenMethod others := by
  unfold chosenMethod
  rw [alike.field?_eq methodKey (by decide), alike.hasServiceAccount_eq]

end Credential

inductive AuthMethod.Alike : AuthMethod → AuthMethod → Prop where
  | offlineToken (token other : String) : Alike (.offlineToken token) (.offlineToken other)
  | serviceAccount (clientId clientSecret other : String) :
      Alike (.serviceAccount clientId clientSecret) (.serviceAccount clientId other)

def FormsAlike (form other : List (String × String)) : Prop :=
  List.Forall₂ (fun field another => field.1 = another.1 ∧
    (field.2 = another.2 ∨ field.1 ∈ ["refresh_token", "client_secret"])) form other

theorem formsAlike_concat (form : List (String × String)) {key : String}
    (secret : key ∈ ["refresh_token", "client_secret"]) (value other : String) :
    FormsAlike (form ++ [(key, value)]) (form ++ [(key, other)]) := by
  induction form with
  | nil => exact .cons ⟨rfl, .inr secret⟩ .nil
  | cons field form ih => exact .cons ⟨rfl, .inl rfl⟩ ih

namespace AuthMethod.Alike

variable {method other : AuthMethod}

theorem name_eq (alike : method.Alike other) : method.name = other.name := by
  cases alike <;> rfl

theorem describe_eq (alike : method.Alike other) : method.describe = other.describe := by
  cases alike <;> rfl

theorem grantForm (alike : method.Alike other) : FormsAlike method.grantForm other.grantForm := by
  cases alike with
  | offlineToken token another => exact formsAlike_concat [_, _] (by decide) token another
  | serviceAccount clientId clientSecret another =>
      exact formsAlike_concat [_, _] (by decide) clientSecret another

end AuthMethod.Alike

structure ResolvedCredential.Alike (resolved other : ResolvedCredential) : Prop where
  method : resolved.method.Alike other.method
  upgraded : resolved.upgraded = other.upgraded

/-- What can be told apart of two resolved credentials is the same, and so are the forms they
are exchanged by, up to the secret field. -/
structure ResolvedCredential.Matches (resolved other : ResolvedCredential) : Prop where
  upgraded : resolved.upgraded = other.upgraded
  described : resolved.describe = other.describe
  requested : ∀ baseUrl, (AuthRequest.mk resolved.method baseUrl).describe =
    (AuthRequest.mk other.method baseUrl).describe
  form : FormsAlike resolved.method.grantForm other.method.grantForm

theorem ResolvedCredential.Alike.matches {resolved other : ResolvedCredential}
    (alike : resolved.Alike other) : resolved.Matches other where
  upgraded := alike.upgraded
  described := by
    unfold describe
    rw [alike.method.describe_eq, alike.upgraded]
  requested := by
    intro baseUrl
    unfold AuthRequest.describe
    rw [alike.method.describe_eq]
  form := alike.method.grantForm

namespace Credential

variable {fields others : Keyed String}

theorem Alike.secret_cases (alike : Alike fields others) (key : String)
    (secret : key ∈ secretKeys) :
    (field? fields key = none ∧ field? others key = none) ∨
      ∃ value other, field? fields key = some value ∧ field? others key = some other := by
  have present := alike.present key secret
  cases first : field? fields key <;> cases second : field? others key
  · exact Or.inl ⟨rfl, rfl⟩
  · simp [first, second] at present
  · simp [first, second] at present
  · exact Or.inr ⟨_, _, rfl, rfl⟩

theorem Alike.ofMethod (alike : Alike fields others) (method : String) :
    EndInStep AuthMethod.Alike (ofMethod fields method) (ofMethod others method) := by
  unfold Credential.ofMethod
  split
  · rcases alike.secret_cases tokenKey (by decide) with
      ⟨first, second⟩ | ⟨token, other, first, second⟩
    · rw [first, second]
      exact .error _
    · rw [first, second]
      exact .ok (.offlineToken token other)
  · split
    · rw [alike.field?_eq clientIdKey (by decide)]
      cases field? others clientIdKey with
      | none => exact .error _
      | some id =>
          rcases alike.secret_cases clientSecretKey (by decide) with
            ⟨first, second⟩ | ⟨clientSecret, other, first, second⟩
          · rw [first, second]
            exact .error _
          · rw [first, second]
            exact .ok (.serviceAccount id clientSecret other)
    · exact .error _

theorem Alike.resolve (alike : Alike fields others) :
    EndInStep ResolvedCredential.Alike (resolve fields) (resolve others) := by
  unfold Credential.resolve
  rw [alike.chosenMethod_eq]
  exact (alike.ofMethod _).map fun _ _ methods => ⟨methods, rfl⟩

end Credential

/-- Secrets whose fields differ in the values of secret keys only, or that are unreadable
alike. -/
def Secret.Alike (secret other : Secret) : Prop :=
  EndInStep Credential.Alike secret.fields other.fields

theorem Secret.Alike.resolve {secret other : Secret} (alike : secret.Alike other) :
    EndInStep ResolvedCredential.Alike (secret.fields.bind Credential.resolve)
      (other.fields.bind Credential.resolve) :=
  EndInStep.bind alike fun _ _ fields => fields.resolve

inductive Effect.Alike : Effect → Effect → Prop where
  | same (effect : Effect) : Alike effect effect
  | form {url : String} {fields others : List (String × String)}
      (alike : FormsAlike fields others) :
      Alike (.send (.form url fields)) (.send (.form url others))

def Effect.readsSecret : Effect → Bool
  | .cluster (.getSecret _ _) => true
  | _ => false

inductive Event.Alike : Event → Event → Prop where
  | same (event : Event) (mute : event.effect.readsSecret = false) : Alike event event
  | secret {space name : String} {answer reply : Except Failure (Option Secret)}
      (alike : EndInStep (Option.Rel Secret.Alike) answer reply) :
      Alike ⟨.cluster (.getSecret space name), answer⟩ ⟨.cluster (.getSecret space name), reply⟩
  | form {url : String} {fields others : List (String × String)}
      (alike : FormsAlike fields others) (reply : Http.Reply) :
      Alike ⟨.send (.form url fields), reply⟩ ⟨.send (.form url others), reply⟩

def upToSecrets : Pairing := ⟨Effect.Alike, Event.Alike⟩

theorem fixes_of_mute {effect : Effect} (mute : effect.readsSecret = false) :
    upToSecrets.Fixes effect := by
  constructor
  · exact Effect.Alike.same effect
  · intro answer reply alike
    cases alike with
    | same => rfl
    | secret => cases mute
    | form => rfl

def performed (kind : Effect → Bool) (events : List Event) : List Effect :=
  (events.map Event.effect).filter kind

theorem performed_eq {kind : Effect → Bool}
    (formless : ∀ url fields, kind (.send (.form url fields)) = false) {events others : List Event}
    (alike : List.Forall₂ Event.Alike events others) :
    performed kind events = performed kind others := by
  have visible {event other : Event} (alike : event.Alike other) :
      kind event.effect = kind other.effect ∧
        (kind event.effect = true → event.effect = other.effect) := by
    cases alike with
    | same => exact ⟨rfl, fun _ => rfl⟩
    | secret => exact ⟨rfl, fun _ => rfl⟩
    | form => simp [formless]
  unfold performed
  induction alike with
  | nil => rfl
  | @cons event other _ _ first _ ih =>
      obtain ⟨sameKind, same⟩ := visible first
      rw [List.map_cons, List.map_cons, List.filter_cons, List.filter_cons, ih, ← sameKind]
      by_cases shown : kind event.effect = true
      · rw [same shown]
      · rw [if_neg shown, if_neg shown]

def Effect.queries : Effect → Bool
  | .send (.query _ _ _) => true
  | _ => false

def Effect.measures : Effect → Bool
  | .measure _ => true
  | _ => false

end ClusterDiscovery

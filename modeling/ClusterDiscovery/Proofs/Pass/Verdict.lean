/-
The verdict on a credential.

Discovery ends in a failure that asks for cleanup exactly when one of the answers it got
shows that the credential is beyond use, or when no credential is named. All other
failures, among them every failure of the inventory, say nothing of the credential.
-/

import ClusterDiscovery.Proofs.Pass.Discovery

namespace ClusterDiscovery

namespace Token

theorem received_of_rejected {reply : Http.Reply} {rejection : AuthClass} {code : Nat}
    {tag description : String}
    (classified : ofReply reply = .error (.auth rejection code tag description))
    (rejected : rejection ≠ .transient) :
    ∃ status body refusal, reply = .received status body ∧ Http.isSuccess status = false ∧
      (Json.parse? body).bind Refusal.read = some refusal ∧
      refusal.tag ≠ "" ∧ refusal.description ≠ "" ∧ rejection = refusal.rejection status := by
  cases reply with
  | unreachable =>
      cases classified
      exact absurd rfl rejected
  | unread status =>
      cases classified
      exact absurd rfl rejected
  | received status body =>
      change ofResponse status body = _ at classified
      unfold ofResponse at classified
      split at classified
      · split at classified
        · cases classified
        · split at classified <;> cases classified
      · rename_i unsuccessful
        have sameFailure := Except.error.inj classified
        unfold refused at sameFailure
        split at sameFailure
        · cases sameFailure
        · rename_i refusal parsed
          split at sameFailure
          · cases sameFailure
          · rename_i stated
            rw [not_or] at stated
            obtain ⟨sameClass, _sameCode, _sameTag, _sameText⟩ := Failure.auth.inj sameFailure
            exact ⟨status, body, refusal, rfl, eq_false_of_ne_true unsuccessful, parsed,
              stated.1, stated.2, sameClass.symm⟩

theorem rejected_of_requiresCleanup {reply : Http.Reply} {failure : Failure}
    (failed : ofReply reply = .error failure) (cleanup : failure.requiresCleanup = true) :
    ∃ rejection code tag description, failure = .auth rejection code tag description ∧
      rejection ≠ .transient := by
  have rejecting (rejection : AuthClass) (code : Nat) (tag description : String)
      (same : Failure.auth rejection code tag description = failure) :
      ∃ rejection code tag description, failure = .auth rejection code tag description ∧
        rejection ≠ .transient := by
    rw [← same] at cleanup
    have rejected : rejection ≠ .transient := by
      simpa [Failure.requiresCleanup] using cleanup
    exact ⟨rejection, code, tag, description, same.symm, rejected⟩
  unfold ofReply ofResponse refused malformed at failed
  split at failed
  · exact rejecting _ _ _ _ (Except.error.inj failed)
  · exact rejecting _ _ _ _ (Except.error.inj failed)
  · split at failed
    · split at failed
      · cases failed
        cases cleanup
      · split at failed
        · cases failed
          cases cleanup
        · cases failed
    · split at failed
      · cases failed
        cases cleanup
      · split at failed
        · cases failed
          cases cleanup
        · exact rejecting _ _ _ _ (Except.error.inj failed)

end Token

theorem Secret.unreadable_of_fields {secret : Secret} {failure : Failure}
    (failed : secret.fields = .error failure) :
    failure.requiresCleanup = true ∧
      ∃ key bytes, (key, bytes) ∈ secret.dataEntries ∧ Text.Utf8.decode? bytes = none := by
  unfold fields at failed
  split at failed
  · rename_i key first
    obtain ⟨entry, found, _same⟩ := Option.map_eq_some_iff.mp first
    have noText := List.find?_some found
    refine ⟨by rw [← Except.error.inj failed]; rfl, entry.1, entry.2,
      List.mem_of_find?_eq_some found, Option.isNone_iff_eq_none.mp noText⟩
  · cases failed

theorem Secret.readable_of_fields {secret : Secret} {texts : Keyed String}
    (read : secret.fields = .ok texts) {key : String} {bytes : List UInt8}
    (entry : (key, bytes) ∈ secret.dataEntries) : Text.Utf8.decode? bytes ≠ none := by
  unfold fields at read
  split at read
  · cases read
  · rename_i none
    intro noText
    have everyText := List.find?_eq_none.mp (Option.map_eq_none_iff.mp none) _ entry
    exact everyText (Option.isNone_iff_eq_none.mpr noText)

theorem Credential.requiresCleanup_of_resolve {texts : Keyed String} {failure : Failure}
    (unresolved : resolve texts = .error failure) : failure.requiresCleanup = true := by
  unfold resolve at unresolved
  cases chosen : ofMethod texts (chosenMethod texts).1 with
  | ok method =>
      rw [chosen] at unresolved
      cases unresolved
  | error cause =>
      rw [chosen] at unresolved
      have sameFailure : cause = failure := Except.error.inj unresolved
      rw [← sameFailure]
      unfold ofMethod at chosen
      split at chosen
      · split at chosen
        · cases chosen
        · rw [← Except.error.inj chosen]
          rfl
      · split at chosen
        · split at chosen
          · cases chosen
          · rw [← Except.error.inj chosen]
            rfl
        · rw [← Except.error.inj chosen]
          rfl

/-- A class of rejection after which a credential is not used again. -/
def AuthClass.isFinal (rejection : AuthClass) : Prop :=
  rejection = .unrecoverable ∨ rejection = .invalidClient ∨ rejection = .unauthorized

theorem AuthClass.isFinal_iff {rejection : AuthClass} :
    rejection.isFinal ↔ rejection ≠ .transient := by
  cases rejection <;> simp [isFinal]

/-- An answer that shows that the credential of a configuration is beyond use. -/
inductive Event.Condemns (settings : Settings) (config : Config) (space : String) :
    Event → Prop where
  | absent : Condemns settings config space
      ⟨.cluster (.getSecret space (Pass.secretName config)), Except.ok none⟩
  | unreadable {secret : Secret} {key : String} {bytes : List UInt8}
      (entry : (key, bytes) ∈ secret.dataEntries) (noText : Text.Utf8.decode? bytes = none) :
      Condemns settings config space
        ⟨.cluster (.getSecret space (Pass.secretName config)), Except.ok (some secret)⟩
  | rejected {secret : Secret} {fields : Keyed String} {failure : Failure}
      (readable : secret.fields = .ok fields)
      (unresolved : Credential.resolve fields = .error failure) :
      Condemns settings config space
        ⟨.cluster (.getSecret space (Pass.secretName config)), Except.ok (some secret)⟩
  | refused {method : AuthMethod} {reply : Http.Reply} {rejection : AuthClass} {code : Nat}
      {tag description : String}
      (classified : Token.ofReply reply = .error (.auth rejection code tag description))
      (final : rejection.isFinal) :
      Condemns settings config space
        ⟨.send (Token.request ⟨method, settings.authUrlFor config⟩), reply⟩

inductive Event.Rejects (settings : Settings) (config : Config) : Event → Prop where
  | refused {method : AuthMethod} {status : Nat} {body : List UInt8} {refusal : Token.Refusal}
      (unsuccessful : Http.isSuccess status = false)
      (parsed : (Json.parse? body).bind Token.Refusal.read = some refusal)
      (tagged : refusal.tag ≠ "") (described : refusal.description ≠ "")
      (final : (refusal.rejection status).isFinal) :
      Rejects settings config
        ⟨.send (Token.request ⟨method, settings.authUrlFor config⟩), .received status body⟩

namespace Pass

variable {settings : Settings} {config : Config} {space : String} {events : List Event}

/-- What was answered shows that the credential of a configuration is beyond use, or it
names none. -/
def Unusable (settings : Settings) (config : Config) (space : String) (events : List Event) :
    Prop :=
  secretName config = "" ∨ ∃ event ∈ events, event.Condemns settings config space

def ReadsPlainly (config : Config) (space : String) (events : List Event) : Prop :=
  ∀ failure, ⟨.cluster (.getSecret space (secretName config)), Except.error failure⟩ ∈ events →
    ∃ cause, failure = .hub cause

def Unasked (events : List Event) : Prop :=
  ∀ event ∈ events, ∀ request, event.effect ≠ .send request

def scrutiny (settings : Settings) (config : Config) (space : String) :
    Discipline (List Event) :=
  .history fun events => ¬ Unusable settings config space events

/-- The verdict of discovery: it asks for cleanup exactly when the credential is beyond use,
and then every request it sent was a request for a token that condemns the credential. -/
def Judged {α : Type} (settings : Settings) (config : Config) (space : String)
    (events : List Event) : Except Failure α → Prop
  | .ok _ => ¬ Unusable settings config space events
  | .error failure =>
      (ReadsPlainly config space events →
        (failure.requiresCleanup = true ↔ Unusable settings config space events)) ∧
      (failure.requiresCleanup = true → ∀ event ∈ events, ∀ request,
        event.effect = .send request → event.Condemns settings config space)

theorem not_condemns_failed_read (failure : Failure) :
    ¬ Event.Condemns settings config space
      ⟨.cluster (.getSecret space (secretName config)), Except.error failure⟩ := by
  intro condemns
  cases condemns

theorem condemns_secret_iff {secret : Secret} :
    Event.Condemns settings config space
        ⟨.cluster (.getSecret space (secretName config)), Except.ok (some secret)⟩ ↔
      ∃ failure, secret.fields.bind Credential.resolve = .error failure := by
  constructor
  · intro condemns
    cases read : secret.fields with
    | error failure => exact ⟨failure, rfl⟩
    | ok texts =>
        cases condemns with
        | unreadable entry noText => exact absurd noText (secret.readable_of_fields read entry)
        | rejected readable unresolved =>
            rw [read] at readable
            cases readable
            exact ⟨_, unresolved⟩
  · rintro ⟨failure, failed⟩
    cases read : secret.fields with
    | error cause =>
        obtain ⟨_cleanup, key, bytes, entry, noText⟩ := secret.unreadable_of_fields read
        exact .unreadable entry noText
    | ok texts =>
        rw [read] at failed
        exact .rejected read failed

theorem of_condemns_send {request : Http.Request} {reply : Http.Reply}
    (condemns : Event.Condemns settings config space ⟨.send request, reply⟩) :
    (∃ method, request = Token.request ⟨method, settings.authUrlFor config⟩) ∧
      ∃ rejection code tag description, rejection.isFinal ∧
        Token.ofReply reply = .error (.auth rejection code tag description) := by
  cases condemns with
  | @refused method _ rejection code tag description classified final =>
      exact ⟨⟨method, rfl⟩, rejection, code, tag, description, final, classified⟩

/-- Of what a remote side can answer only a refusal in full condemns a credential. -/
theorem rejects_of_condemns {event : Event} {request : Http.Request}
    (condemns : event.Condemns settings config space) (sent : event.effect = .send request) :
    event.Rejects settings config := by
  cases condemns with
  | refused classified final =>
      obtain ⟨status, body, refusal, rfl, unsuccessful, parsed, tagged, described, rfl⟩ :=
        Token.received_of_rejected classified (AuthClass.isFinal_iff.mp final)
      exact .refused unsuccessful parsed tagged described final
  | _ => cases sent

theorem usable_append {event : Event} (usable : ¬ Unusable settings config space events)
    (harmless : ¬ event.Condemns settings config space) :
    ¬ Unusable settings config space (events ++ [event]) := by
  rintro (blank | ⟨other, member, condemns⟩)
  · exact usable (Or.inl blank)
  · rcases List.mem_append.mp member with earlier | last
    · exact usable (Or.inr ⟨other, earlier, condemns⟩)
    · rw [List.mem_singleton.mp last] at condemns
      exact harmless condemns

theorem unasked_append {event : Event} (unasked : Unasked events)
    (silent : ∀ request, event.effect ≠ .send request) : Unasked (events ++ [event]) := by
  intro other member
  rcases List.mem_append.mp member with earlier | last
  · exact unasked other earlier
  · rw [List.mem_singleton.mp last]
    exact silent

theorem judged_of_harmless {α : Type} {failure : Failure}
    (harmless : failure.requiresCleanup = false)
    (usable : ¬ Unusable settings config space events) :
    Judged settings config space events (.error failure : Except Failure α) := by
  refine ⟨fun _ => ⟨fun cleanup => ?_, fun unusable => absurd unusable usable⟩,
    fun cleanup => ?_⟩
  · rw [harmless] at cleanup
    cases cleanup
  · rw [harmless] at cleanup
    cases cleanup

theorem judged_of_condemned {α : Type} {failure : Failure}
    (cleanup : failure.requiresCleanup = true) (unusable : Unusable settings config space events)
    (unasked : Unasked events) :
    Judged settings config space events (.error failure : Except Failure α) :=
  ⟨fun _ => ⟨fun _ => unusable, fun _ => cleanup⟩,
    fun _ event member request same => absurd same (unasked event member request)⟩

private theorem requiresCleanup_of_secret {secret : Secret} {failure : Failure}
    (failed : secret.fields.bind Credential.resolve = .error failure) :
    failure.requiresCleanup = true := by
  cases read : secret.fields with
  | error cause =>
      rw [read] at failed
      cases failed
      exact (secret.unreadable_of_fields read).1
  | ok texts =>
      rw [read] at failed
      exact Credential.requiresCleanup_of_resolve failed

private theorem secret_judged {secret : Secret}
    (usable : ¬ Unusable settings config space events) (unasked : Unasked events) :
    Judged settings config space
      (events ++ [⟨.cluster (.getSecret space (secretName config)), Except.ok (some secret)⟩])
      (secret.fields.bind Credential.resolve) := by
  cases resolved : secret.fields.bind Credential.resolve with
  | error failure =>
      have condemns : Event.Condemns settings config space
          ⟨.cluster (.getSecret space (secretName config)), Except.ok (some secret)⟩ :=
        condemns_secret_iff.mpr ⟨failure, resolved⟩
      refine judged_of_condemned (requiresCleanup_of_secret resolved) ?_
        (unasked_append unasked fun request => by simp)
      exact Or.inr ⟨_, List.mem_append_right _ List.mem_cons_self, condemns⟩
  | ok credential =>
      refine usable_append usable fun condemns => ?_
      obtain ⟨failure, failed⟩ := condemns_secret_iff.mp condemns
      rw [resolved] at failed
      cases failed

private theorem resolveCredential_judged :
    (resolveCredential config space).Obeys (scrutiny settings config space) (fun events result =>
      Judged settings config space events result ∧ Unasked events) [] := by
  have nothingAsked : Unasked [] := by
    intro event member
    cases member
  refine resolveCredential_stage (fun blank => ?_) trivial fun named answer => ?_
  · exact ⟨judged_of_condemned rfl (Or.inl blank) nothingAsked, nothingAsked⟩
  · have usable : ¬ Unusable settings config space [] := by
      rintro (blank | ⟨event, member, _condemns⟩)
      · exact named blank
      · cases member
    have unasked : Unasked
        ([] ++ [⟨.cluster (.getSecret space (secretName config)), answer⟩]) :=
      unasked_append nothingAsked fun request => by simp
    cases answer with
    | error failure =>
        have stillUsable := usable_append usable (not_condemns_failed_read failure)
        refine ⟨⟨fun plainly => ⟨fun cleanup => ?_, fun unusable => ?_⟩, ?_⟩, unasked⟩
        · obtain ⟨cause, rfl⟩ := plainly failure List.mem_cons_self
          cases cleanup
        · exact absurd unusable stillUsable
        · intro _cleanup event member request same
          exact absurd same (unasked event member request)
    | ok found =>
        cases found with
        | none =>
            refine ⟨judged_of_condemned rfl ?_ unasked, unasked⟩
            exact Or.inr ⟨_, List.mem_cons_self, .absent⟩
        | some secret => exact ⟨secret_judged usable nothingAsked, unasked⟩

private theorem persistUpgrade_judged (resolved : ResolvedCredential)
    (usable : ¬ Unusable settings config space events) (unasked : Unasked events) :
    (persistUpgrade config space resolved).Obeys (scrutiny settings config space)
      (fun events result =>
        ¬ Unusable settings config space events ∧ Unasked events ∧ ∃ done, result = .ok done)
      events := by
  refine persistUpgrade_stage ⟨usable, unasked, (), rfl⟩ (fun _ => trivial) fun method answer => ?_
  refine ⟨usable_append usable ?_, unasked_append unasked ?_, (), rfl⟩
  · intro condemns
    cases condemns
  · intro request
    simp

private theorem exchange_judged (method : AuthMethod)
    (usable : ¬ Unusable settings config space events) (unasked : Unasked events) :
    (exchange settings config method).Obeys (scrutiny settings config space) (fun events result =>
      Judged settings config space events result) events := by
  refine exchange_stage trivial fun reply => ?_
  have harmless (notRejected : ∀ rejection code tag description, rejection.isFinal →
      Token.ofReply reply ≠ .error (.auth rejection code tag description)) :
      ¬ Unusable settings config space (events ++
        [⟨.send (Token.request ⟨method, settings.authUrlFor config⟩), reply⟩]) := by
    refine usable_append usable fun condemns => ?_
    obtain ⟨_own, rejection, code, tag, description, final, classified⟩ :=
      of_condemns_send condemns
    exact notRejected rejection code tag description final classified
  cases answered : Token.ofReply reply with
  | ok token =>
      refine harmless fun rejection code tag description _final => ?_
      rw [answered]
      exact fun impossible => by cases impossible
  | error failure =>
      cases cleanup : failure.requiresCleanup with
      | false =>
          refine judged_of_harmless cleanup
            (harmless fun rejection code tag description final => ?_)
          rw [answered]
          intro same
          rw [Except.error.inj same] at cleanup
          have transient : rejection = .transient := by
            simpa [Failure.requiresCleanup] using cleanup
          exact AuthClass.isFinal_iff.mp final transient
      | true =>
          obtain ⟨rejection, code, tag, description, rfl, rejected⟩ :=
            Token.rejected_of_requiresCleanup answered cleanup
          have condemns : Event.Condemns settings config space
              ⟨.send (Token.request ⟨method, settings.authUrlFor config⟩), reply⟩ :=
            .refused answered (AuthClass.isFinal_iff.mpr rejected)
          refine ⟨fun _ => ⟨fun _ => ?_, fun _ => cleanup⟩, fun _ => ?_⟩
          · exact Or.inr ⟨_, List.mem_append_right _ List.mem_cons_self, condemns⟩
          · intro event member request same
            rcases List.mem_append.mp member with earlier | last
            · exact absurd same (unasked event earlier request)
            · rw [List.mem_singleton.mp last]
              exact condemns

/-- Discovery judges a credential by what it was answered, whatever that was. -/
theorem discover_judged :
    (discover settings config space).Obeys (scrutiny settings config space) (fun events result =>
      Judged settings config space events result) [] := by
  unfold discover
  refine resolveCredential_judged.bind ?_ (fun _ _ judged => judged.1)
  intro events resolved usable
  refine (persistUpgrade_judged resolved usable.1 usable.2).bind ?_ ?_
  · intro events _done persisted
    refine (exchange_judged resolved.method persisted.1 persisted.2.1).bind ?_
      (fun _ _ judged => judged)
    intro events token stillUsable
    refine Routine.obeys_bind.mpr (Routine.obeys_perform.mpr ⟨trivial, fun now => ?_⟩)
    have usableNow : ¬ Unusable settings config space (events ++ [⟨.now, now⟩]) := by
      refine usable_append stillUsable fun condemns => ?_
      cases condemns
    refine Routine.obeys_bind.mpr (Routine.obeys_orHalt.mpr
      ⟨fun _ => usableNow, fun search _inBounds => ?_⟩)
    have asks (known : List Event) (number : Nat)
        (usable : ¬ Unusable settings config space known) :
        (scrutiny settings config space).permits known
            (.send ((listingRequest settings config token search).page number)) ∧
          ∀ reply, ¬ Unusable settings config space ((scrutiny settings config space).learns known
            (.send ((listingRequest settings config token search).page number)) reply) := by
      refine ⟨trivial, fun reply => usable_append usable fun condemns => ?_⟩
      obtain ⟨⟨method, isForm⟩, _classified⟩ := of_condemns_send condemns
      cases isForm
    refine (Inventory.fetch_obeys asks (fun _ usable => usable) usableNow).bind ?_ ?_
    · intro events subscriptions fetched
      exact Routine.obeys_orHalt.mpr ⟨fun _ => fetched.1, fun _ _ => fetched.1⟩
    · intro events failure fetched
      exact judged_of_harmless (fetched.2 failure rfl) fetched.1
  · intro events failure persisted
    obtain ⟨_done, impossible⟩ := persisted.2.2
    cases impossible

end Pass

end ClusterDiscovery

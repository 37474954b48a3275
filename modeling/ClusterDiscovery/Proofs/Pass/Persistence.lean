/-
Upgrades written back.

Once the method of an upgraded credential stands in its secret the credential names a method, so no
later pass upgrades it again, and every later pass asks for a token by the same method. The pass
that writes it back makes nothing of the answer, so it does the same and ends alike whether or not
the method can be written.
-/

import ClusterDiscovery.Proofs.Credential.Upgrade
import ClusterDiscovery.Proofs.Pass.Dealings
import ClusterDiscovery.Proofs.Pass.Secrecy
import ClusterDiscovery.Proofs.Program.Indifference

namespace ClusterDiscovery

variable {σ : Type}

def Effect.touchesSecret : Effect → Bool
  | .cluster (.getSecret _ _) => true
  | effect => effect.persists

def Effect.sendsForm : Effect → Bool
  | .send (.form _ _) => true
  | _ => false

/-- The handler keeps a secret that is edited in no other way than by merging a method into its
texts. -/
structure Handler.KeepsSecret (handler : Handler σ) (space name : String) (kept : σ → Secret) :
    Prop where
  told : ∀ state found, (handler (.cluster (.getSecret space name)) state).1 = .ok found →
    ∃ secret, found = some secret ∧ (kept state).SameContent secret
  merged : ∀ method state,
    (handler (.cluster (.setAuthMethod space name method)) state).1 = .ok () →
      ((kept state).mergeMethod method).SameContent
        (kept (handler (.cluster (.setAuthMethod space name method)) state).2)
  still : ∀ effect state, (∀ method, effect ≠ .cluster (.setAuthMethod space name method)) →
    (kept state).SameContent (kept (handler effect state).2)

namespace Secret

structure Step (space name : String) (event : Event) (before after : Option (Keyed String)) :
    Prop where
  told : ∀ found, event = ⟨.cluster (.getSecret space name), .ok found⟩ →
    ∃ secret, found = some secret ∧ secret.texts = before
  merged : ∀ method, event = ⟨.cluster (.setAuthMethod space name method), .ok ()⟩ →
    after = before.map fun fields => fields.insert Credential.methodKey method
  still : (∀ method, event.effect ≠ .cluster (.setAuthMethod space name method)) → after = before

/-- What the events of a trace make of the texts of a secret, one after the other. -/
def Story (space name : String) :
    Option (Keyed String) → List Event → Option (Keyed String) → Prop
  | before, [], after => after = before
  | before, event :: rest, after =>
      ∃ between, Step space name event before between ∧ Story space name between rest after

variable {space name : String} {before after : Option (Keyed String)} {events : List Event}

/-- What has nothing to do with credentials can be left out of a story. -/
theorem Story.dealings (story : Story space name before events after) :
    Story space name before (dealings events) after := by
  unfold ClusterDiscovery.dealings
  induction events generalizing before with
  | nil => exact story
  | cons event rest ih =>
      obtain ⟨between, step, later⟩ := story
      by_cases concerns : event.effect.concernsCredential = true
      · rw [List.filter_cons, if_pos concerns]
        exact ⟨between, step, ih later⟩
      · rw [List.filter_cons, if_neg concerns]
        have same : between = before := step.still fun method same => concerns (by rw [same]; rfl)
        rw [← same]
        exact ih later

theorem Story.still (story : Story space name before events after)
    (unwritten : ∀ event ∈ events, ∀ method,
      event.effect ≠ .cluster (.setAuthMethod space name method)) : after = before := by
  induction events generalizing before with
  | nil => exact story
  | cons event rest ih =>
      obtain ⟨between, step, later⟩ := story
      have same : between = before := step.still (unwritten event List.mem_cons_self)
      rw [← same]
      exact ih later fun other member => unwritten other (List.mem_cons_of_mem _ member)

end Secret

namespace Handler.KeepsSecret

variable {handler : Handler σ} {space name : String} {kept : σ → Secret}

theorem step (keeps : handler.KeepsSecret space name kept) (effect : Effect) (state : σ) :
    Secret.Step space name ⟨effect, (handler effect state).1⟩ (kept state).texts
      (kept (handler effect state).2).texts where
  told := by
    intro found same
    obtain rfl : effect = _ := congrArg Event.effect same
    obtain ⟨secret, rfl, content⟩ := keeps.told state found (eq_of_heq (Event.mk.inj same).2)
    exact ⟨secret, rfl, content.texts_eq⟩
  merged := by
    intro method same
    obtain rfl : effect = _ := congrArg Event.effect same
    rw [(keeps.merged method state (eq_of_heq (Event.mk.inj same).2)).texts_eq,
      Secret.texts_mergeMethod]
  still := fun other => (keeps.still effect state other).texts_eq

theorem story (keeps : handler.KeepsSecret space name kept) {α : Type} (program : Program α)
    (state : σ) : Secret.Story space name (kept state).texts (program.trace handler state)
      (kept (program.run handler state).2).texts := by
  induction program generalizing state with
  | done value => exact rfl
  | halt reason => exact rfl
  | perform effect next ih => exact ⟨_, keeps.step effect state, ih _ _⟩

end Handler.KeepsSecret

namespace Pass

variable {settings : Settings} {config : Config} {space name : String} {method : AuthMethod}
  {texts after : Option (Keyed String)} {events : List Event}

structure Uses (settings : Settings) (config : Config) (space : String) (method : AuthMethod)
    (events : List Event) : Prop where
  only : ∀ form ∈ performed Effect.sendsForm events, form = formOf settings config method
  asks : ∀ found, asked config space (.ok found) ∈ events →
    performed Effect.sendsForm events = [formOf settings config method]

theorem performed_dealings (events : List Event) :
    performed Effect.sendsForm (dealings events) = performed Effect.sendsForm events := by
  unfold performed dealings
  rw [List.filter_map, List.filter_map, List.filter_filter]
  congr 1
  apply List.filter_congr
  rintro ⟨effect, answer⟩ _member
  cases effect with
  | send request => cases request <;> rfl
  | _ => rfl

theorem Uses.of_dealings (uses : Uses settings config space method (dealings events)) :
    Uses settings config space method events where
  only := by
    rw [← performed_dealings]
    exact uses.only
  asks := by
    intro found member
    rw [← performed_dealings]
    exact uses.asks found (List.mem_filter.mpr ⟨member, rfl⟩)

/-- The texts of a secret name the method that they are resolved to. -/
def Settled (method : AuthMethod) (texts : Option (Keyed String)) : Prop :=
  ∃ fields, texts = some fields ∧ Credential.resolve fields = .ok ⟨method, false⟩

theorem Settled.resolves {secret : Secret} (settled : Settled method texts)
    (same : secret.texts = texts) :
    secret.fields.bind Credential.resolve = .ok ⟨method, false⟩ := by
  obtain ⟨fields, rfl, resolves⟩ := settled
  exact Secret.resolves_iff.mpr ⟨fields, same, resolves⟩

/-- What a secret that was shown first holds is what its story begins with. -/
theorem texts_of_asked {found : Option Secret}
    (story : Secret.Story space name texts (asked config space (.ok found) :: events) after)
    (own : secretName config = name) : ∃ secret, found = some secret ∧ secret.texts = texts := by
  obtain ⟨between, step, _later⟩ := story
  exact step.told found (by rw [← own]; rfl)

/-- A secret that is settled is not written to. -/
theorem unwritten_of_settled (settled : Settled method texts)
    (dealing : Dealing settings config events)
    (story : Secret.Story space name texts events after) :
    ∀ event ∈ events, ∀ other, event.effect ≠ .cluster (.setAuthMethod space name other) := by
  intro event member other writes
  have persists : event.effect.persists = true := by
    rw [writes]
    rfl
  obtain ⟨place, secret, found, answer, reply, resolves, rfl, rfl⟩ :=
    dealing.upgraded_of_persists member persists
  cases writes
  obtain ⟨_, ⟨⟩, shown⟩ := texts_of_asked story rfl
  rw [settled.resolves shown] at resolves
  cases resolves

/-- A pass that is shown a settled secret asks for a token by its method. -/
theorem uses_of_settled (settled : Settled method texts) (dealing : Dealing settings config events)
    (story : Secret.Story space name texts events after)
    (placed : config.metadata.space = some space) (own : secretName config = name) :
    Uses settings config space method events := by
  have resolves {secret : Secret} {rest : List Event}
      (shown : Secret.Story space name texts (asked config space (.ok (some secret)) :: rest) after) :
      secret.fields.bind Credential.resolve = .ok ⟨method, false⟩ := by
    obtain ⟨_, ⟨⟩, same⟩ := texts_of_asked shown own
    exact settled.resolves same
  cases dealing with
  | none =>
      exact ⟨fun _ member => absurd member List.not_mem_nil,
        fun _ member => absurd member List.not_mem_nil⟩
  | @unresolved place answer failure alsoPlaced refused =>
      obtain rfl : place = space := Option.some.inj (alsoPlaced.symm.trans placed)
      refine ⟨fun _ member => absurd member List.not_mem_nil, fun found member => ?_⟩
      cases List.mem_singleton.mp member
      obtain ⟨secret, rfl, _same⟩ := texts_of_asked story own
      rw [show resolution config (.ok (some secret)) = _ from resolves story] at refused
      cases refused
  | @explicit place secret other alsoPlaced resolved reply =>
      obtain rfl : place = space := Option.some.inj (alsoPlaced.symm.trans placed)
      rw [resolves story] at resolved
      cases resolved
      exact ⟨fun form member => List.mem_singleton.mp member, fun _ _ => rfl⟩
  | @upgraded place secret other alsoPlaced resolved answer reply =>
      obtain rfl : place = space := Option.some.inj (alsoPlaced.symm.trans placed)
      rw [resolves story] at resolved
      cases resolved

/-- What is known after a method was written back: the credential that the secret held before was
upgraded, the secret is settled, and the pass itself asked for a token by the same method. -/
theorem settled_of_written {noted : String} (dealing : Dealing settings config events)
    (story : Secret.Story space name texts events after)
    (member : ⟨.cluster (.setAuthMethod space name noted), .ok ()⟩ ∈ events) :
    ∃ used : AuthMethod, noted = used.name ∧
      (∃ fields, texts = some fields ∧ Credential.resolve fields = .ok ⟨used, true⟩) ∧
      Settled used after ∧
      performed Effect.sendsForm events = [formOf settings config used] := by
  obtain ⟨place, secret, used, answer, reply, resolves, rfl, same⟩ :=
    dealing.upgraded_of_persists member rfl
  cases same
  obtain ⟨_, ⟨⟩, shown⟩ := texts_of_asked story rfl
  obtain ⟨fields, held, resolved⟩ := Secret.resolves_iff.mp resolves
  obtain ⟨_, first, _, second, _, third, rfl⟩ := story
  obtain rfl := first.still nofun
  obtain rfl := second.merged used.name rfl
  obtain rfl := third.still nofun
  rw [shown] at held
  refine ⟨used, rfl, ⟨fields, held, resolved⟩, ?_, rfl⟩
  exact ⟨fields.insert Credential.methodKey used.name, by rw [held]; rfl,
    Credential.resolve_insert_name resolved⟩

/-- States that a state may come to while nobody edits a secret: passes are made, and what else
happens leaves what the secret holds. -/
inductive Later (handler : Handler σ) (kept : σ → Secret) (first : σ) : σ → Prop where
  | here : Later handler kept first first
  | beside {state next : σ} (later : Later handler kept first state)
      (unedited : (kept state).SameContent (kept next)) : Later handler kept first next
  | pass {state : σ} (later : Later handler kept first state) (settings : Settings)
      (config : Config) :
      Later handler kept first ((reconcile settings config).execute handler state).2

section Kept

variable {handler : Handler σ} {kept : σ → Secret} {first state : σ}

theorem story_reconcile (keeps : handler.KeepsSecret space name kept) (settings : Settings)
    (config : Config) (state : σ) :
    Secret.Story space name (kept state).texts
      (dealings ((reconcile settings config).trace handler state))
      (kept ((reconcile settings config).execute handler state).2).texts :=
  (keeps.story _ state).dealings

theorem reconcile_of_settled (keeps : handler.KeepsSecret space name kept)
    (settled : Settled method (kept state).texts) :
    ∀ event ∈ (reconcile settings config).trace handler state, ∀ other,
      event.effect ≠ .cluster (.setAuthMethod space name other) := by
  intro event member other same
  have concerns : event ∈ dealings ((reconcile settings config).trace handler state) := by
    refine List.mem_filter.mpr ⟨member, ?_⟩
    rw [same]
    rfl
  exact unwritten_of_settled settled (dealing_reconcile settings config handler state)
    (story_reconcile keeps settings config state) event concerns other same

theorem Later.settled (later : Later handler kept first state)
    (keeps : handler.KeepsSecret space name kept) (initially : Settled method (kept first).texts) :
    Settled method (kept state).texts := by
  induction later with
  | here => exact initially
  | beside _ unedited ih =>
      rw [unedited.texts_eq]
      exact ih
  | @pass state _ settings config ih =>
      have same := (keeps.story (ExceptT.run (reconcile settings config)) state).still
        (reconcile_of_settled keeps ih)
      change Settled method (kept (Program.run handler _ state).2).texts
      rw [same]
      exact ih

end Kept

section Answer

private theorem heeded_of_untouched (effect : Effect) (untouched : effect.touchesSecret = false) :
    effect.persists = false := by
  cases effect with
  | cluster call => cases call <;> first | rfl | cases untouched
  | _ => rfl

private theorem untouched_of_quiet (effect : Effect)
    (quiet : effect.concernsCredential = false) : effect.touchesSecret = false := by
  cases effect with
  | cluster call => cases call <;> first | rfl | cases quiet
  | _ => rfl

private theorem untouched_quiet (known : Unit) (effect : Effect)
    (quiet : effect.concernsCredential = false) (_ : True) :
    (Discipline.without Effect.touchesSecret).permits known effect ∧
      ∀ _answer : effect.Answer, True :=
  ⟨untouched_of_quiet effect quiet, fun _ => trivial⟩

private theorem heeded_quiet (known : Unit) (effect : Effect)
    (quiet : effect.concernsCredential = false) (_ : True) :
    (Discipline.without Effect.persists).permits known effect ∧
      ∀ _answer : effect.Answer, True :=
  ⟨heeded_of_untouched effect (untouched_of_quiet effect quiet), fun _ => trivial⟩

theorem persistUpgrade_ignores (resolved : ResolvedCredential) :
    (persistUpgrade config space resolved).Ignores Effect.persists Effect.touchesSecret := by
  unfold persistUpgrade
  split
  · exact Program.Ignores.ignore rfl (Program.obeys_done.mpr trivial)
  · exact .done _

theorem discover_ignores (settings : Settings) (config : Config) (space : String) :
    (discover settings config space).Ignores Effect.persists Effect.touchesSecret := by
  have resolves : (resolveCredential config space).Obeys (Discipline.without Effect.persists)
      (fun _ _ => True) () := resolveCredential_stage (fun _ => trivial) rfl fun _ _ => trivial
  rw [discover_eq]
  refine resolves.ignores_bind fun resolved => ?_
  refine (persistUpgrade_ignores resolved).bind heeded_of_untouched fun _ => ?_
  have exchanged : (exchange settings config resolved.method).Obeys
      (Discipline.without Effect.touchesSecret) (fun _ _ => True) () :=
    exchange_stage rfl fun _ => trivial
  refine exchanged.bind (fun _ token _ => ?_) fun _ _ _ => trivial
  exact search_quiet untouched_quiet (fun _ _ => trivial) token trivial

theorem run_ignores (settings : Settings) (config : Config) (space : String) :
    (run settings config space).Ignores Effect.persists Effect.touchesSecret := by
  rw [run_eq]
  exact ((discover_ignores settings config space).attempt heeded_of_untouched).bind
    heeded_of_untouched fun result => conclude_quiet untouched_quiet result trivial

/-- A pass makes nothing of the answer when it writes a method back. -/
theorem reconcile_ignores (settings : Settings) (config : Config) :
    (reconcile settings config).Ignores Effect.persists Effect.touchesSecret := by
  have counted : measureConfigs.Obeys (Discipline.without Effect.persists) (fun _ _ => True) () :=
    measureConfigs_quiet heeded_quiet trivial
  unfold reconcile
  refine counted.ignores_bind fun _ => ?_
  split
  · exact .done _
  · split
    · exact .done _
    · split
      · exact .done _
      · rename_i space _placed
        unfold runMeasured
        refine ((run_ignores settings config space).attempt heeded_of_untouched).bind
          heeded_of_untouched fun result => ?_
        exact Routine.obeys_bind.mpr ((Routine.obeys_perform (e := .measure _)).mpr
          ⟨rfl, fun _ => Routine.obeys_ofExcept.mpr trivial⟩)

end Answer

/-- From a state on no pass writes a method to a secret, and every pass that is shown the secret
asks for a token by one and the same method. -/
structure SticksTo (handler : Handler σ) (kept : σ → Secret) (space name : String)
    (method : AuthMethod) (first : σ) : Prop where
  unwritten : ∀ state, Later handler kept first state → ∀ settings config,
    ∀ event ∈ (reconcile settings config).trace handler state, ∀ other,
      event.effect ≠ .cluster (.setAuthMethod space name other)
  uses : ∀ state, Later handler kept first state → ∀ settings config,
    config.metadata.space = some space → secretName config = name →
      Uses settings config space method ((reconcile settings config).trace handler state)

theorem sticksTo_of_settled {handler : Handler σ} {kept : σ → Secret} {first : σ}
    (keeps : handler.KeepsSecret space name kept) (settled : Settled method (kept first).texts) :
    SticksTo handler kept space name method first where
  unwritten := fun _ later _ _ => reconcile_of_settled keeps (later.settled keeps settled)
  uses := by
    intro state later settings config placed own
    exact (uses_of_settled (later.settled keeps settled)
      (dealing_reconcile settings config handler state)
      (story_reconcile keeps settings config state) placed own).of_dealings

/-- Fields that name the method they are resolved to are resolved to it again without an upgrade,
and fields are upgraded if they name no method but hold a service account. The patch of a method
puts it among the texts of a secret. So a secret that a method was once written back to is not
upgraded again, and passes stick to the method. Whether it could be written makes no difference to
the pass that wrote it. -/
theorem upgrade_is_stable :
    (∀ fields resolved, Credential.resolve fields = .ok resolved →
      Credential.resolve (fields.insert Credential.methodKey resolved.method.name) =
        .ok ⟨resolved.method, false⟩ ∧
      (resolved.upgraded = true ↔ Credential.Blank fields Credential.methodKey ∧
        (∃ id, Credential.Holds fields Credential.clientIdKey id) ∧
          ∃ secret, Credential.Holds fields Credential.clientSecretKey secret)) ∧
    (∀ fields id secret, Credential.Blank fields Credential.methodKey →
      Credential.Holds fields Credential.clientIdKey id →
        Credential.Holds fields Credential.clientSecretKey secret →
          Credential.resolve fields = .ok ⟨.serviceAccount id secret, true⟩) ∧
    (∀ document secret method, document.IsTable →
      (∀ texts, document.member? "stringData" = some texts → texts = .null ∨ texts.IsTable) →
        Hub.readSecret document = some secret →
          Hub.readSecret (document.merge (Hub.methodPatch method)) =
            some (secret.mergeMethod method)) ∧
    (∀ {σ : Type} (handler : Handler σ) (space name : String) (kept : σ → Secret),
      handler.KeepsSecret space name kept → ∀ state settings config method,
        ⟨.cluster (.setAuthMethod space name method), .ok ()⟩ ∈
            (reconcile settings config).trace handler state →
          ∃ used : AuthMethod, method = used.name ∧
            (kept state).fields.bind Credential.resolve = .ok ⟨used, true⟩ ∧
            performed Effect.sendsForm ((reconcile settings config).trace handler state) =
              [formOf settings config used] ∧
            SticksTo handler kept space name used
              ((reconcile settings config).execute handler state).2) ∧
    ∀ {σ : Type} (handler other : Handler σ) (apart : σ → σ → Prop),
      handler.PartsAt Effect.persists Effect.touchesSecret other apart →
        ∀ settings config state,
          ((reconcile settings config).execute handler state).1 =
            ((reconcile settings config).execute other state).1 ∧
          ((reconcile settings config).trace handler state).map Event.effect =
            ((reconcile settings config).trace other state).map Event.effect := by
  refine ⟨?_, fun _ _ _ => Credential.resolve_of_serviceAccount, ?_, ?_, ?_⟩
  · intro fields resolved resolves
    obtain ⟨_made, upgraded⟩ := Credential.resolve_eq_ok_iff.mp resolves
    rw [← upgraded]
    exact ⟨Credential.resolve_insert_name resolves, Credential.chosenMethod_upgrades_iff⟩
  · intro document secret method isTable tidy read
    exact Hub.readSecret_merge_methodPatch isTable tidy read method
  · intro σ handler space name kept keeps state settings config method member
    have concerns : _ ∈ dealings ((reconcile settings config).trace handler state) :=
      List.mem_filter.mpr ⟨member, rfl⟩
    obtain ⟨used, same, held, settled, asks⟩ :=
      settled_of_written (dealing_reconcile settings config handler state)
        (story_reconcile keeps settings config state) concerns
    rw [performed_dealings] at asks
    exact ⟨used, same, Secret.resolves_iff.mpr held, asks, sticksTo_of_settled keeps settled⟩
  · intro σ handler other apart parts settings config state
    obtain ⟨sameEnd, sameEvents⟩ := (reconcile_ignores settings config).run parts state
    exact ⟨sameEnd, Event.effects_eq sameEvents⟩

end Pass

namespace Sample

def account : Secret :=
  { secretWith "offline" with
    stringData := some (((fieldsWith "offline").insert Credential.clientIdKey "id").insert
      Credential.clientSecretKey " password\n") }

def noted (answer : Except Failure Unit) (space name method : String) (secret : Secret) : Secret :=
  if answer.toBool ∧ space = "ns" ∧ name = "secret" then secret.mergeMethod method else secret

def merging (answer : Except Failure Unit) : Handler (World × Secret)
  | .cluster (.getSecret _ _), state => (.ok (some state.2), state)
  | .cluster (.setAuthMethod space name method), state =>
      (answer, (state.1, noted answer space name method state.2))
  | effect, state =>
      let answered := World.handle effect state.1
      (answered.1, (answered.2, state.2))

theorem merging_keepsSecret (answer : Except Failure Unit) :
    (merging answer).KeepsSecret "ns" "secret" Prod.snd where
  told := by
    rintro state found ⟨⟩
    exact ⟨_, rfl, rfl, rfl⟩
  merged := by
    rintro method state succeeded
    change answer = .ok () at succeeded
    subst succeeded
    exact ⟨rfl, rfl⟩
  still := by
    intro effect state other
    cases effect with
    | cluster call =>
        cases call with
        | setAuthMethod space name method =>
            have elsewhere : noted answer space name method state.2 = state.2 := by
              refine if_neg ?_
              rintro ⟨_succeeded, rfl, rfl⟩
              exact other method rfl
            change state.2.SameContent (noted answer space name method state.2)
            rw [elsewhere]
            exact ⟨rfl, rfl⟩
        | _ => exact ⟨rfl, rfl⟩
    | _ => exact ⟨rfl, rfl⟩

/-- Whether a method is merged shows in the secret only. -/
theorem merging_partsAt (failure : Failure) :
    (merging (.ok ())).PartsAt Effect.persists Effect.touchesSecret (merging (.error failure))
      fun here there => here.1 = there.1 where
  same := by
    intro effect state heeded
    cases effect with
    | cluster call => cases call <;> first | rfl | cases heeded
    | _ => rfl
  parted := by
    intro effect state unheeded
    cases effect with
    | cluster call => cases call <;> rfl
    | _ => cases unheeded
  unseen := by
    rintro effect ⟨world, secret⟩ ⟨_, other⟩ untouched ⟨⟩
    cases effect with
    | cluster call => cases call <;> first | exact ⟨rfl, rfl⟩ | cases untouched
    | _ => exact ⟨rfl, rfl⟩

def upgrading : World × Secret := (keeping "offline", account)

def upgraded : World × Secret :=
  ((Pass.reconcile .standard config).execute (merging (.ok ())) upgrading).2

end Sample

/-- The first pass upgrades the credential, and the second one uses the service account as well.
The first one would have ended no differently if the method could not have been written. -/
theorem Pass.upgrade_is_stable_sample :
    (∃ used, SticksTo (Sample.merging (.ok ())) Prod.snd "ns" "secret" used Sample.upgraded ∧
      used = .serviceAccount "id" "password") ∧
    ((reconcile .standard Sample.config).execute (Sample.merging (.error (.internal "")))
      Sample.upgrading).1 = .ok (.ok (.requeue 1800)) := by
  obtain ⟨_again, _account, _patch, stable, harmless⟩ := upgrade_is_stable
  have noted : ⟨.cluster (.setAuthMethod "ns" "secret" AuthMethod.serviceAccountName), .ok ()⟩ ∈
      (reconcile .standard Sample.config).trace (Sample.merging (.ok ())) Sample.upgrading :=
    List.mem_of_getElem? (show _ = some _ from rfl : _[3]? = _)
  have resolves : Sample.account.fields.bind Credential.resolve =
      .ok ⟨.serviceAccount "id" "password", true⟩ := by
    decide +kernel
  have ends : ((reconcile .standard Sample.config).execute (Sample.merging (.ok ()))
      Sample.upgrading).1 = .ok (.ok (.requeue 1800)) := by
    decide +kernel
  obtain ⟨used, _name, held, _asks, sticks⟩ :=
    stable _ _ _ _ (Sample.merging_keepsSecret (.ok ())) _ _ _ _ noted
  refine ⟨⟨used, sticks, ?_⟩, ?_⟩
  · have same := resolves.symm.trans held
    cases same
    rfl
  · rw [← (harmless _ _ _ (Sample.merging_partsAt (.internal "")) _ _ _).1]
    exact ends

end ClusterDiscovery

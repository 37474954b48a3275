/-
What a pass does with its credential.

A pass reads its secret once. If that gives a credential, the pass asks for a token by the method
of the credential, and before that it writes the method back if the credential was upgraded.
Everything else that it does has nothing to do with credentials, so this is all that its trace has
of them.
-/

import ClusterDiscovery.Proofs.Pass.Stages

namespace ClusterDiscovery

variable {σ : Type}

def dealings (events : List Event) : List Event :=
  events.filter fun event => event.effect.concernsCredential

def Discipline.dealing (stops : List Event → Prop) : Discipline (List Event) where
  permits _ _ := True
  learns known effect answer :=
    if effect.concernsCredential then known ++ [⟨effect, answer⟩] else known
  stops := stops

namespace Discipline

variable {stops : List Event → Prop} {known : List Event}

theorem learnt_dealing (events : List Event) :
    (dealing stops).learnt known events = known ++ dealings events := by
  unfold learnt dealings
  induction events generalizing known with
  | nil => exact (List.append_nil _).symm
  | cons event rest ih =>
      rw [List.foldl_cons, ih, List.filter_cons]
      change (if event.effect.concernsCredential then _ else _) ++ _ = _
      by_cases concerns : event.effect.concernsCredential = true
      · rw [if_pos concerns, if_pos concerns, List.append_assoc]
        rfl
      · rw [if_neg concerns, if_neg concerns]

theorem dealing_quiet {invariant : List Event → Prop} (known : List Event) (effect : Effect)
    (quiet : effect.concernsCredential = false) (holds : invariant known) :
    (dealing stops).permits known effect ∧
      ∀ answer, invariant ((dealing stops).learns known effect answer) := by
  refine ⟨trivial, fun answer => ?_⟩
  change invariant (if effect.concernsCredential then _ else known)
  rw [quiet]
  exact holds

end Discipline

namespace Pass

variable {settings : Settings} {config : Config} {space : String}

def asked (config : Config) (space : String) (answer : Except Failure (Option Secret)) : Event :=
  ⟨.cluster (.getSecret space (secretName config)), answer⟩

def written (config : Config) (space : String) (method : AuthMethod)
    (answer : Except Failure Unit) : Event :=
  ⟨.cluster (.setAuthMethod space (secretName config) method.name), answer⟩

def formOf (settings : Settings) (config : Config) (method : AuthMethod) : Effect :=
  .send (Token.request ⟨method, settings.authUrlFor config⟩)

/-- What a pass may do with its credential. -/
inductive Dealing (settings : Settings) (config : Config) : List Event → Prop where
  | none : Dealing settings config []
  | unresolved {space : String} {answer : Except Failure (Option Secret)} {failure : Failure}
      (placed : config.metadata.space = some space)
      (refused : resolution config answer = .error failure) :
      Dealing settings config [asked config space answer]
  | explicit {space : String} {secret : Secret} {method : AuthMethod}
      (placed : config.metadata.space = some space)
      (resolves : secret.fields.bind Credential.resolve = .ok ⟨method, false⟩)
      (reply : Http.Reply) :
      Dealing settings config
        [asked config space (.ok (some secret)), ⟨formOf settings config method, reply⟩]
  | upgraded {space : String} {secret : Secret} {method : AuthMethod}
      (placed : config.metadata.space = some space)
      (resolves : secret.fields.bind Credential.resolve = .ok ⟨method, true⟩)
      (answer : Except Failure Unit) (reply : Http.Reply) :
      Dealing settings config
        [asked config space (.ok (some secret)), written config space method answer,
          ⟨formOf settings config method, reply⟩]

/-- A pass writes a method back only if its credential was upgraded, and then once. -/
theorem Dealing.upgraded_of_persists {events : List Event} (dealing : Dealing settings config events)
    {event : Event} (member : event ∈ events) (persists : event.effect.persists = true) :
    ∃ space secret method answer reply,
      secret.fields.bind Credential.resolve = .ok ⟨method, true⟩ ∧
      events = [asked config space (.ok (some secret)), written config space method answer,
        ⟨formOf settings config method, reply⟩] ∧
      event = written config space method answer := by
  cases dealing with
  | none => cases member
  | unresolved placed refused =>
      rw [List.mem_singleton.mp member] at persists
      cases persists
  | explicit placed resolves reply =>
      rcases List.mem_cons.mp member with rfl | member
      · cases persists
      · rw [List.mem_singleton.mp member] at persists
        cases persists
  | @upgraded space secret method placed resolves answer reply =>
      refine ⟨space, secret, method, answer, reply, resolves, rfl, ?_⟩
      rcases List.mem_cons.mp member with rfl | member
      · cases persists
      · rcases List.mem_cons.mp member with same | member
        · exact same
        · rw [List.mem_singleton.mp member] at persists
          cases persists

def Prepared (config : Config) (space : String) (resolved : ResolvedCredential)
    (known : List Event) : Prop :=
  ∃ secret, secret.fields.bind Credential.resolve = .ok resolved ∧
    ((resolved.upgraded = false ∧ known = [asked config space (.ok (some secret))]) ∨
      resolved.upgraded = true ∧ ∃ answer, known =
        [asked config space (.ok (some secret)), written config space resolved.method answer])

theorem Prepared.dealing {resolved : ResolvedCredential} {known : List Event}
    (prepared : Prepared config space resolved known)
    (placed : config.metadata.space = some space) (reply : Http.Reply) :
    Dealing settings config (known ++ [⟨formOf settings config resolved.method, reply⟩]) := by
  obtain ⟨method, upgraded⟩ := resolved
  obtain ⟨secret, resolves, ⟨rfl, rfl⟩ | ⟨rfl, answer, rfl⟩⟩ := prepared
  · exact .explicit placed resolves reply
  · exact .upgraded placed resolves answer reply

theorem resolveCredential_dealing (placed : config.metadata.space = some space) :
    (resolveCredential config space).Obeys (.dealing (Dealing settings config))
      (fun known result => match result with
        | .ok resolved => ∃ secret, secret.fields.bind Credential.resolve = .ok resolved ∧
            known = [asked config space (.ok (some secret))]
        | .error _ => Dealing settings config known) [] := by
  refine resolveCredential_stage (fun _ => .none) trivial fun _named answer => ?_
  cases outcome : resolution config answer with
  | error failure => exact .unresolved placed outcome
  | ok resolved =>
      cases answer with
      | error failure => cases outcome
      | ok found =>
          cases found with
          | none => cases outcome
          | some secret => exact ⟨secret, outcome, rfl⟩

theorem persistUpgrade_dealing {stops : List Event → Prop} {secret : Secret}
    {resolved : ResolvedCredential}
    (resolves : secret.fields.bind Credential.resolve = .ok resolved) :
    (persistUpgrade config space resolved).Obeys (.dealing stops)
      (fun known result => result = .ok () ∧ Prepared config space resolved known)
      [asked config space (.ok (some secret))] := by
  unfold persistUpgrade
  split
  · rename_i upgraded
    refine Routine.obeys_bind.mpr (Routine.obeys_attempt.mpr (Routine.obeys_call.mpr
      ⟨trivial, fun answer => Routine.obeys_pure.mpr ?_⟩))
    exact ⟨rfl, secret, resolves, Or.inr ⟨upgraded, answer, rfl⟩⟩
  · rename_i explicit
    refine Routine.obeys_pure.mpr ⟨rfl, secret, resolves, Or.inl ⟨?_, rfl⟩⟩
    exact Bool.eq_false_iff.mpr explicit

theorem discover_dealing (placed : config.metadata.space = some space) :
    (discover settings config space).Obeys (.dealing (Dealing settings config))
      (fun known _ => Dealing settings config known) [] := by
  rw [discover_eq]
  refine (resolveCredential_dealing placed).bind ?_ fun _ _ unresolved => unresolved
  rintro known resolved ⟨secret, resolves, rfl⟩
  refine (persistUpgrade_dealing resolves).bind ?_ fun _ _ failed => nomatch failed.1
  rintro known _done ⟨_, prepared⟩
  have exchanged : (exchange settings config resolved.method).Obeys
      (.dealing (Dealing settings config)) (fun known _ => Dealing settings config known) known :=
    exchange_stage trivial fun reply => prepared.dealing placed reply
  refine exchanged.bind ?_ fun _ _ dealing => dealing
  intro known token dealing
  exact search_quiet Discipline.dealing_quiet (fun _ dealing => dealing) token dealing

/-- A pass of a namespace deals with its credential and with no other one. -/
theorem run_dealing (placed : config.metadata.space = some space) :
    (run settings config space).Obeys (.dealing (Dealing settings config))
      (fun known _ => Dealing settings config known) [] := by
  rw [run_eq]
  refine Routine.obeys_bind.mpr (Routine.obeys_attempt.mpr ((discover_dealing placed).mono ?_))
  intro known result dealing
  exact conclude_quiet Discipline.dealing_quiet result dealing

theorem reconcile_obeys_dealing (settings : Settings) (config : Config) :
    (reconcile settings config).Obeys (.dealing (Dealing settings config))
      (fun known _ => Dealing settings config known) [] := by
  unfold reconcile
  have counted : measureConfigs.Obeys (.dealing (Dealing settings config))
      (fun known _ => known = []) [] := measureConfigs_quiet Discipline.dealing_quiet rfl
  refine counted.bind ?_ ?_
  · rintro known _done rfl
    split
    · exact Routine.obeys_pure.mpr .none
    · split
      · exact Routine.obeys_pure.mpr .none
      · split
        · exact Routine.obeys_ofExcept.mpr .none
        · rename_i space placed
          unfold runMeasured
          refine Routine.obeys_bind.mpr
            (Routine.obeys_attempt.mpr ((run_dealing placed).mono ?_))
          intro known result dealing
          exact Routine.obeys_bind.mpr ((Routine.obeys_perform (e := .measure _)).mpr
            ⟨trivial, fun answer => Routine.obeys_ofExcept.mpr dealing⟩)
  · rintro known failure rfl
    exact .none

/-- The dealings of a pass, however it ends. -/
theorem dealing_reconcile (settings : Settings) (config : Config) (handler : Handler σ)
    (state : σ) : Dealing settings config
      (dealings ((reconcile settings config).trace handler state)) := by
  have obeys := reconcile_obeys_dealing settings config
  rcases ended : (reconcile settings config).execute handler state with ⟨result, reached⟩
  cases result with
  | ok result =>
      have ensured := obeys.program.run ended
      rw [Discipline.learnt_dealing] at ensured
      exact ensured
  | error reason =>
      have stopped := obeys.program.stops ended
      rw [Discipline.learnt_dealing] at stopped
      exact stopped

end Pass

end ClusterDiscovery

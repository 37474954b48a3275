/-
Passes that differ in a secret.

A pass reads one secret, and what it resolves of it goes into a form for the token endpoint and
nowhere else. So two passes that are answered alike run in step: apart from the secret that is
read and the form that is sent they do the same, and they end the same.
-/

import ClusterDiscovery.Proofs.Pass.Discovery
import ClusterDiscovery.Proofs.World.Secrecy

namespace ClusterDiscovery

abbrev muteDiscipline : Discipline Unit := Discipline.plain upToSecrets.Fixes

theorem mute_quiet (known : Unit) (effect : Effect) (quiet : effect.concernsCredential = false)
    (_ : True) : muteDiscipline.permits known effect ∧ ∀ _answer : effect.Answer, True := by
  refine ⟨fixes_of_mute ?_, fun _ => trivial⟩
  cases effect with
  | cluster call => cases call <;> first | rfl | cases quiet
  | _ => rfl

namespace Pass

variable {settings : Settings} {config : Config} {space : String}

theorem resolveCredential_inStep (config : Config) (space : String) :
    (resolveCredential config space).InStep upToSecrets ResolvedCredential.Alike
      (resolveCredential config space) := by
  have read (name : String) : (Routine.call (.getSecret space name)).InStep upToSecrets
      (Option.Rel Secret.Alike) (Routine.call (.getSecret space name)) := by
    have itself : upToSecrets.effects (.cluster (.getSecret space name))
      (.cluster (.getSecret space name)) := Effect.Alike.same _
    refine Routine.inStep_call itself fun answer reply alike => ?_
    cases alike with
    | same _ mute => cases mute
    | secret answers => exact answers
  unfold resolveCredential
  simp only
  split
  · exact Routine.inStep_ofExcept (.error _)
  · refine (read _).bind fun found other alike => ?_
    cases alike with
    | none => exact Routine.inStep_ofExcept (.error _)
    | some secrets => exact Routine.inStep_ofExcept secrets.resolve

theorem persistUpgrade_inStep {resolved other : ResolvedCredential} (alike : resolved.Alike other) :
    (persistUpgrade config space resolved).InStep upToSecrets Eq
      (persistUpgrade config space other) := by
  have same : persistUpgrade config space resolved = persistUpgrade config space other := by
    unfold persistUpgrade
    rw [alike.upgraded, alike.method.name_eq]
  have mute : (persistUpgrade config space other).Obeys muteDiscipline (fun _ _ => True) () :=
    persistUpgrade_stage trivial (fun _ => fixes_of_mute rfl) fun _ _ => trivial
  rw [same]
  exact mute.inStep

theorem form_inStep {url : String} {form other : List (String × String)}
    (alike : FormsAlike form other) :
    (Routine.perform (.send (.form url form))).InStep upToSecrets Eq
      (Routine.perform (.send (.form url other))) := by
  have paired : upToSecrets.effects (.send (.form url form)) (.send (.form url other)) :=
    .form alike
  refine Routine.inStep_perform paired fun answer reply events => ?_
  cases events <;> rfl

theorem exchange_inStep {method other : AuthMethod} (alike : method.Alike other) :
    (exchange settings config method).InStep upToSecrets Eq (exchange settings config other) := by
  unfold exchange
  refine (form_inStep alike.grantForm).bind fun reply other same => ?_
  rw [same]
  exact Routine.inStep_ofExcept (EndInStep.refl _)

theorem discover_inStep (settings : Settings) (config : Config) (space : String) :
    (discover settings config space).InStep upToSecrets Eq (discover settings config space) := by
  rw [discover_eq]
  refine (resolveCredential_inStep config space).bind fun resolved other alike => ?_
  refine (persistUpgrade_inStep alike).bind fun _ _ _ => ?_
  refine (exchange_inStep alike.method).bind fun token _ same => ?_
  subst same
  have searched : (search settings config space token).Obeys muteDiscipline (fun _ _ => True) () :=
    search_quiet mute_quiet (fun _ _ => trivial) token trivial
  exact searched.inStep

theorem run_inStep (settings : Settings) (config : Config) (space : String) :
    (run settings config space).InStep upToSecrets Eq (run settings config space) := by
  rw [run_eq]
  refine (discover_inStep settings config space).attempt.bind fun result other alike => ?_
  obtain rfl := alike.eq
  have concluded : (conclude settings config space result).Obeys muteDiscipline
      (fun _ _ => True) () := conclude_quiet mute_quiet result trivial
  exact concluded.inStep

theorem runMeasured_inStep (settings : Settings) (config : Config) (space : String) :
    (runMeasured settings config space).InStep upToSecrets Eq
      (runMeasured settings config space) := by
  unfold runMeasured
  refine (run_inStep settings config space).attempt.bind fun result other alike => ?_
  obtain rfl := alike.eq
  have measured : (Routine.measure (.passDuration space (measuredOutcome result))).Obeys
      muteDiscipline (fun _ _ => True) () :=
    (Routine.obeys_perform (e := .measure _)).mpr ⟨fixes_of_mute rfl, fun _ => trivial⟩
  exact measured.inStep.bind fun _ _ _ => Routine.inStep_ofExcept (EndInStep.refl _)

theorem reconcile_inStep (settings : Settings) (config : Config) :
    (reconcile settings config).InStep upToSecrets Eq (reconcile settings config) := by
  have counted : measureConfigs.Obeys muteDiscipline (fun _ _ => True) () :=
    measureConfigs_quiet mute_quiet trivial
  unfold reconcile
  refine counted.inStep.bind fun _ _ _ => ?_
  split
  · exact Routine.inStep_ofExcept (.ok rfl)
  · split
    · exact Routine.inStep_ofExcept (.ok rfl)
    · split
      · exact Routine.inStep_ofExcept (.error _)
      · exact runMeasured_inStep settings config _

end Pass

/-- Two runs of a routine differ in nothing but secrets: in the secret fields of forms that are
sent and in the secrets that are read. -/
structure SameUpToSecrets {α σ τ : Type} (routine : Routine α) (handler : Handler σ)
    (other : Handler τ) (here : σ) (there : τ) : Prop where
  result : (routine.execute handler here).1 = (routine.execute other there).1
  queries : performed Effect.queries (routine.trace handler here) =
    performed Effect.queries (routine.trace other there)
  writes : writes (routine.trace handler here) = writes (routine.trace other there)
  measurements : performed Effect.measures (routine.trace handler here) =
    performed Effect.measures (routine.trace other there)
  events : List.Forall₂ Event.Alike (routine.trace handler here) (routine.trace other there)

theorem Routine.InStep.sameUpToSecrets {α σ τ : Type} {routine : Routine α}
    (inStep : routine.InStep upToSecrets Eq routine) {handler : Handler σ} {other : Handler τ}
    {alike : σ → τ → Prop} (answered : upToSecrets.Answered handler other alike) {here : σ}
    {there : τ} (initially : alike here there) :
    SameUpToSecrets routine handler other here there := by
  obtain ⟨events, result, _reached⟩ := Program.InStep.run inStep answered initially
  have same := result.mono fun _ _ ended => ended.eq
  exact ⟨same.eq, performed_eq (fun _ _ => rfl) events, performed_eq (fun _ _ => rfl) events,
    performed_eq (fun _ _ => rfl) events, events⟩

/-- The value of a secret reaches the token endpoint and nothing else. What is resolved of fields
that differ in secrets differs in the secret field of a form, and passes that are answered in
step differ in the secret they read and in the form they send. -/
theorem secrets_reach_token_endpoint_only :
    (∀ fields others : Keyed String, Credential.Alike fields others →
      (∃ failure, Credential.resolve fields = .error failure ∧
        Credential.resolve others = .error failure) ∨
      ∃ resolved other, Credential.resolve fields = .ok resolved ∧
        Credential.resolve others = .ok other ∧ resolved.Matches other) ∧
    ∀ {σ τ : Type} (handler : Handler σ) (other : Handler τ) (alike : σ → τ → Prop),
      upToSecrets.Answered handler other alike → ∀ here there, alike here there →
        ∀ settings config,
          SameUpToSecrets (Pass.reconcile settings config) handler other here there ∧
          ∀ space, SameUpToSecrets (Pass.run settings config space) handler other here there := by
  constructor
  · intro fields others alike
    have resolved := alike.resolve
    generalize Credential.resolve fields = first at resolved
    generalize Credential.resolve others = second at resolved
    cases resolved with
    | error failure => exact Or.inl ⟨failure, rfl, rfl⟩
    | ok alike => exact Or.inr ⟨_, _, rfl, rfl, alike.matches⟩
  · intro σ τ handler other alike answered here there initially settings config
    exact ⟨(Pass.reconcile_inStep settings config).sameUpToSecrets answered initially,
      fun space => (Pass.run_inStep settings config space).sameUpToSecrets answered initially⟩

/-- What a pass does and ends with where one token is kept, it does where another one is. -/
theorem secrets_reach_token_endpoint_only_sample :
    (∃ resolved, Credential.resolve (Sample.fieldsWith "other") = .ok resolved ∧
      resolved.upgraded = false) ∧
    ((Pass.reconcile .standard Sample.config).execute World.handle (Sample.keeping "other")).1 =
      .ok (.ok (.requeue 1800)) ∧
    writes ((Pass.reconcile .standard Sample.config).trace World.handle
      (Sample.keeping "other")) = [.cluster (.deleteRecord "ns" "a")] := by
  have present : Text.trim "offline" ≠ "" ∧ Text.trim "other" ≠ "" := by decide
  have fields : Credential.Alike (Sample.fieldsWith "offline") (Sample.fieldsWith "other") :=
    Sample.alike_insertAll .empty present.1 present.2
  have resolves : Credential.resolve (Sample.fieldsWith "offline") =
      .ok ⟨.offlineToken "offline", false⟩ := by
    decide +kernel
  have ends : ((Pass.reconcile .standard Sample.config).execute World.handle
      (Sample.keeping "offline")).1 = .ok (.ok (.requeue 1800)) := by
    decide +kernel
  have deletes : writes ((Pass.reconcile .standard Sample.config).trace World.handle
      (Sample.keeping "offline")) = [.cluster (.deleteRecord "ns" "a")] := rfl
  obtain ⟨sameResult, _, sameWrites, _, _⟩ :=
    (secrets_reach_token_endpoint_only.2 World.handle World.handle World.Alike
      World.answered_handle _ _ (Sample.alike_keeping present.1 present.2) .standard
      Sample.config).1
  refine ⟨?_, sameResult.symm.trans ends, sameWrites.symm.trans deletes⟩
  rcases secrets_reach_token_endpoint_only.1 _ _ fields with
    ⟨failure, fails, _⟩ | ⟨resolved, other, found, alsoFound, alike⟩
  · rw [resolves] at fails
    cases fails
  · rw [resolves] at found
    cases found
    exact ⟨other, alsoFound, alike.upgraded.symm⟩

end ClusterDiscovery

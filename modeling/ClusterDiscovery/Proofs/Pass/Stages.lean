/-
The stages of a pass under a discipline.

Each stage performs a few effects, and what it ends with depends on their answers alone. So
whether it obeys a discipline is decided by what is known after each answer, and a rule for
every stage says what has to be shown there.
-/

import ClusterDiscovery.Pass.Basic
import ClusterDiscovery.Proofs.Pass.Application
import ClusterDiscovery.Proofs.Program.Discipline

namespace ClusterDiscovery

variable {κ : Type} {rule : Discipline κ} {known : κ}

def Effect.persists : Effect → Bool
  | .cluster (.setAuthMethod _ _ _) => true
  | _ => false

def Effect.concernsCredential : Effect → Bool
  | .cluster (.getSecret _ _) => true
  | .send (.form _ _) => true
  | effect => effect.persists

namespace Inventory

theorem fetch_stage (before : κ → Prop)
    {ensures : κ → Except Failure (List Subscription) → Prop} {request : ListingRequest}
    (sizeless : request.pageSize = 0 →
      ensures known (.error (.validation "page size must be positive")))
    (initially : request.pageSize ≠ 0 → before known)
    (permitted : ∀ known number, before known →
      rule.permits known (.send (request.page number)))
    (read : ∀ known number reply page, before known → Page.ofReply reply = .ok page →
      before (rule.learns known (.send (request.page number)) reply))
    (failed : ∀ known number reply failure, before known → Page.ofReply reply = .error failure →
      ensures (rule.learns known (.send (request.page number)) reply) (.error failure))
    (listed : ∀ known subscriptions, before known → ensures known (.ok subscriptions))
    (stopping : ∀ known, before known → rule.stops known) :
    (fetch request).Obeys rule ensures known := by
  have pages (limit number : Nat) (known : κ) (holds : before known) :
      (fetchFrom request limit number).Obeys rule (fun known result =>
        match result with
        | .ok _ => before known
        | .error failure => ensures known (.error failure)) known := by
    induction limit generalizing number known with
    | zero =>
        refine Routine.obeys_orHalt.mpr ⟨fun _ => stopping known holds, ?_⟩
        intro found impossible
        cases impossible
    | succ limit ih =>
        unfold fetchFrom
        refine Routine.obeys_bind.mpr (Routine.obeys_perform.mpr
          ⟨permitted known number holds, fun reply => ?_⟩)
        refine Routine.obeys_bind.mpr (Routine.obeys_ofExcept.mpr ?_)
        cases answered : Page.ofReply reply with
        | error failure => exact failed known number reply failure holds answered
        | ok page =>
            have later := read known number reply page holds answered
            simp only
            split
            · exact Routine.obeys_pure.mpr later
            · exact (ih _ _ later).bind (fun _ _ holds => Routine.obeys_pure.mpr holds)
                (fun _ _ holds => holds)
  unfold fetch
  split
  · rename_i empty
    exact Routine.obeys_ofExcept.mpr (sizeless empty)
  · rename_i sized
    refine (pages _ _ known (initially sized)).mono fun known result ended => ?_
    cases result with
    | ok subscriptions => exact listed known subscriptions ended
    | error failure => exact ended

end Inventory

theorem Plan.applyAll_stage {invariant : κ → Prop} {space : String} {mutations : List Mutation}
    (writes : ∀ known, ∀ mutation ∈ mutations, invariant known →
      rule.permits known (.cluster (mutation.call space)) ∧
        ∀ answer, invariant (rule.learns known (.cluster (mutation.call space)) answer))
    (measures : ∀ known measurement, invariant known →
      rule.permits known (.measure measurement) ∧
        ∀ answer, invariant (rule.learns known (.measure measurement) answer))
    (initially : invariant known) :
    (applyAll space mutations).Obeys rule (fun known _ => invariant known) known := by
  induction mutations generalizing known with
  | nil => exact Routine.obeys_pure.mpr initially
  | cons mutation rest ih =>
      obtain ⟨permitted, stays⟩ := writes known mutation List.mem_cons_self initially
      have performed : (mutation.perform space).Obeys rule (fun known _ => invariant known)
          known := by
        cases mutation with
        | create cluster =>
            exact (Routine.obeys_call (c := .createRecord cluster)).mpr ⟨permitted, stays⟩
        | update cluster =>
            exact (Routine.obeys_call (c := .replaceRecord cluster)).mpr ⟨permitted, stays⟩
        | delete name =>
            exact (Routine.obeys_call (c := .deleteRecord space name)).mpr ⟨permitted, stays⟩
      have applied : (mutation.apply space).Obeys rule (fun known _ => invariant known) known := by
        unfold Mutation.apply
        refine Routine.obeys_bind.mpr (Routine.obeys_attempt.mpr (performed.mono ?_))
        intro known result holds
        cases result with
        | error failure => exact Routine.obeys_ofExcept.mpr holds
        | ok done => exact (Routine.obeys_perform (e := .measure _)).mpr (measures known _ holds)
      exact applied.bind (fun known _ holds => ih (fun known other member =>
        writes known other (List.mem_cons_of_mem _ member)) holds) (fun _ _ holds => holds)

namespace Pass

variable {settings : Settings} {config : Config} {space : String}

def resolution (config : Config) :
    Except Failure (Option Secret) → Except Failure ResolvedCredential
  | .error failure => .error failure
  | .ok none => .error (.credentialUnavailable (secretName config) "secret not found")
  | .ok (some secret) => secret.fields.bind Credential.resolve

theorem resolveCredential_stage {ensures : κ → Except Failure ResolvedCredential → Prop}
    (unnamed : secretName config = "" →
      ensures known (.error (.credentialUnavailable "" "no credential configured")))
    (permitted : rule.permits known (.cluster (.getSecret space (secretName config))))
    (answered : secretName config ≠ "" → ∀ answer,
      ensures (rule.learns known (.cluster (.getSecret space (secretName config))) answer)
        (resolution config answer)) :
    (resolveCredential config space).Obeys rule ensures known := by
  unfold resolveCredential
  simp only
  split
  · rename_i blank
    exact Routine.obeys_ofExcept.mpr (unnamed blank)
  · rename_i named
    refine Routine.obeys_bind.mpr (Routine.obeys_call.mpr ⟨permitted, fun answer => ?_⟩)
    cases answer with
    | error failure => exact answered named (.error failure)
    | ok found =>
        cases found with
        | none => exact Routine.obeys_ofExcept.mpr (answered named (.ok none))
        | some secret => exact Routine.obeys_ofExcept.mpr (answered named (.ok (some secret)))

theorem persistUpgrade_stage {ensures : κ → Except Failure Unit → Prop}
    {resolved : ResolvedCredential} (current : ensures known (.ok ()))
    (permitted : ∀ method,
      rule.permits known (.cluster (.setAuthMethod space (secretName config) method)))
    (answered : ∀ method answer,
      ensures (rule.learns known
        (.cluster (.setAuthMethod space (secretName config) method)) answer) (.ok ())) :
    (persistUpgrade config space resolved).Obeys rule ensures known := by
  unfold persistUpgrade
  split
  · exact Routine.obeys_bind.mpr (Routine.obeys_attempt.mpr (Routine.obeys_call.mpr
      ⟨permitted _, fun answer => Routine.obeys_pure.mpr (answered _ answer)⟩))
  · exact Routine.obeys_pure.mpr current

theorem exchange_stage {ensures : κ → Except Failure String → Prop} {method : AuthMethod}
    (permitted : rule.permits known
      (.send (Token.request ⟨method, settings.authUrlFor config⟩)))
    (answered : ∀ reply,
      ensures (rule.learns known
        (.send (Token.request ⟨method, settings.authUrlFor config⟩)) reply)
        (Token.ofReply reply)) :
    (exchange settings config method).Obeys rule ensures known := by
  unfold exchange
  exact Routine.obeys_bind.mpr (Routine.obeys_perform.mpr
    ⟨permitted, fun reply => Routine.obeys_ofExcept.mpr (answered reply)⟩)

theorem measureConfigs_stage {invariant : κ → Prop}
    (permitted : ∀ known, invariant known →
      rule.permits known (.cluster .countConfigs) ∧
        ∀ measurement, rule.permits known (.measure measurement))
    (counted : ∀ known answer, invariant known →
      invariant (rule.learns known (.cluster .countConfigs) answer))
    (measured : ∀ known measurement answer, invariant known →
      invariant (rule.learns known (.measure measurement) answer))
    (initially : invariant known) :
    measureConfigs.Obeys rule (fun known result => invariant known ∧ result = .ok ()) known := by
  unfold measureConfigs
  refine Routine.obeys_bind.mpr (Routine.obeys_attempt.mpr
    (Routine.obeys_call.mpr ⟨(permitted known initially).1, fun answer => ?_⟩))
  have holds := counted known answer initially
  cases answer with
  | error failure => exact Routine.obeys_pure.mpr ⟨holds, rfl⟩
  | ok count =>
      exact (Routine.obeys_perform (e := .measure _)).mpr
        ⟨(permitted _ holds).2 _, fun answer => ⟨measured _ _ answer holds, rfl⟩⟩

def inquire (settings : Settings) (config : Config) (space token : String)
    (now : Time.Instant) : Routine (Keyed ClusterSpec) := do
  let search ← Routine.orHalt .timeOutOfRange (config.spec.filters.searchTerm? now)
  let subscriptions ← Inventory.fetch (listingRequest settings config token search)
  Routine.orHalt .timeOutOfRange
    (Inventory.canonicalSet? config.spec.filters ⟨secretName config, space⟩ now subscriptions)

def search (settings : Settings) (config : Config) (space token : String) :
    Routine (Keyed ClusterSpec) := do
  let now ← Routine.perform .now
  inquire settings config space token now

theorem discover_eq (settings : Settings) (config : Config) (space : String) :
    discover settings config space = (do
      let resolved ← resolveCredential config space
      persistUpgrade config space resolved
      let token ← exchange settings config resolved.method
      search settings config space token) := rfl

def conclude (settings : Settings) (config : Config) (space : String) :
    Except Failure (Keyed ClusterSpec) → Routine (Action × PassOutcome)
  | .ok canonical => do
      converge config space canonical
      pure (.requeue settings.refreshSecs, .applied)
  | .error failure =>
      if failure.requiresCleanup then do
        removeAll space
        pure (.requeue settings.refreshSecs, .cleanup)
      else if failure.isTransient then
        pure (.requeue settings.transientRetrySecs, .transient)
      else Routine.ofExcept (.error failure)

theorem run_eq (settings : Settings) (config : Config) (space : String) :
    run settings config space =
      Routine.attempt (discover settings config space) >>= conclude settings config space := rfl

section Quiet

/- Apart from its credential a pass does nothing that has to do with one, so a discipline that
allows everything else is obeyed by the rest of it. -/
variable {invariant : κ → Prop}
  (quiet : ∀ known effect, effect.concernsCredential = false → invariant known →
    rule.permits known effect ∧ ∀ answer, invariant (rule.learns known effect answer))

include quiet

theorem measureConfigs_quiet (initially : invariant known) :
    measureConfigs.Obeys rule (fun known _ => invariant known) known := by
  have counts (known : κ) := quiet known (.cluster .countConfigs) rfl
  have measures (known : κ) (measurement : Measurement) := quiet known (.measure measurement) rfl
  have counted : measureConfigs.Obeys rule
      (fun known result => invariant known ∧ result = .ok ()) known :=
    measureConfigs_stage
      (fun known holds => ⟨(counts known holds).1, fun measurement =>
        (measures known measurement holds).1⟩)
      (fun known answer holds => (counts known holds).2 answer)
      (fun known measurement answer holds => (measures known measurement holds).2 answer)
      initially
  exact counted.mono fun _ _ ended => ended.1

theorem applyAll_quiet (mutations : List Mutation) (initially : invariant known) :
    (Plan.applyAll space mutations).Obeys rule (fun known _ => invariant known) known := by
  refine Plan.applyAll_stage (fun known mutation _member holds => quiet known _ ?_ holds)
    (fun known measurement holds => quiet known (.measure measurement) rfl holds) initially
  cases mutation <;> rfl

theorem removeAll_quiet (initially : invariant known) :
    (removeAll space).Obeys rule (fun known _ => invariant known) known := by
  have listed := quiet known (.cluster (.listRecords space)) rfl initially
  unfold removeAll
  refine Routine.obeys_bind.mpr (Routine.obeys_call.mpr ⟨listed.1, fun answer => ?_⟩)
  cases answer with
  | error failure => exact listed.2 _
  | ok existing => exact applyAll_quiet quiet _ (listed.2 _)

theorem converge_quiet (canonical : Keyed ClusterSpec) (initially : invariant known) :
    (converge config space canonical).Obeys rule (fun known _ => invariant known) known := by
  have listed := quiet known (.cluster (.listRecords space)) rfl initially
  unfold converge
  refine Routine.obeys_bind.mpr (Routine.obeys_call.mpr ⟨listed.1, fun answer => ?_⟩)
  cases answer with
  | error failure => exact listed.2 _
  | ok existing =>
      refine (applyAll_quiet quiet _ (listed.2 _)).bind (fun known _ holds => ?_)
        fun _ _ holds => holds
      exact (Routine.obeys_perform (e := .nudge)).mpr (quiet known .nudge rfl holds)

theorem conclude_quiet (result : Except Failure (Keyed ClusterSpec))
    (initially : invariant known) :
    (conclude settings config space result).Obeys rule (fun known _ => invariant known) known := by
  cases result with
  | ok canonical =>
      exact (converge_quiet quiet canonical initially).bind
        (fun _ _ holds => Routine.obeys_pure.mpr holds) fun _ _ holds => holds
  | error failure =>
      simp only [conclude]
      split
      · exact (removeAll_quiet quiet initially).bind
          (fun _ _ holds => Routine.obeys_pure.mpr holds) fun _ _ holds => holds
      · split
        · exact Routine.obeys_pure.mpr initially
        · exact Routine.obeys_ofExcept.mpr initially

theorem search_quiet (stopping : ∀ known, invariant known → rule.stops known) (token : String)
    (initially : invariant known) :
    (search settings config space token).Obeys rule (fun known _ => invariant known) known := by
  have looked := quiet known .now rfl initially
  unfold search inquire
  refine Routine.obeys_bind.mpr (Routine.obeys_perform.mpr ⟨looked.1, fun now => ?_⟩)
  refine Routine.obeys_bind.mpr (Routine.obeys_orHalt.mpr
    ⟨fun _ => stopping _ (looked.2 now), fun search _inBounds => ?_⟩)
  have asks (known : κ) (number : Nat) :=
    quiet known (.send ((listingRequest settings config token search).page number)) rfl
  have fetched : (Inventory.fetch (listingRequest settings config token search)).Obeys rule
      (fun known _ => invariant known) (rule.learns known .now now) :=
    Inventory.fetch_stage invariant (fun _ => looked.2 now) (fun _ => looked.2 now)
      (fun known number holds => (asks known number holds).1)
      (fun known number reply _ holds _ => (asks known number holds).2 reply)
      (fun known number reply _ holds _ => (asks known number holds).2 reply)
      (fun _ _ holds => holds) stopping
  refine fetched.bind (fun known subscriptions holds => ?_) fun _ _ holds => holds
  exact Routine.obeys_orHalt.mpr ⟨fun _ => stopping _ holds, fun _ _ => holds⟩

end Quiet

end Pass

end ClusterDiscovery

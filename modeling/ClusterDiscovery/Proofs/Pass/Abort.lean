/-
A pass that is aborted touches nothing.

A pass can be in the way of itself: its configuration may not be one to act upon, a call it
needs may fail, or a remote side may have a hiccup. Each of these decides alone how the pass
ends, and in none of them is a record altered, however many calls went well before. This is
shown for all that a pass has done by its end, so the answers may be any.
-/

import ClusterDiscovery.Hub.Reply
import ClusterDiscovery.Proofs.Inventory.Cutoff
import ClusterDiscovery.Proofs.Inventory.Page
import ClusterDiscovery.Proofs.Inventory.Paging
import ClusterDiscovery.Proofs.Pass.Discovery
import ClusterDiscovery.Proofs.Pass.Stages
import ClusterDiscovery.Proofs.World.Keeper

namespace ClusterDiscovery

variable {σ τ : Type}

/-- What is held is the same after every effect that alters no record. -/
def Handler.Leaves (handler : Handler σ) (held : σ → τ) : Prop :=
  ∀ effect state, effect.changesRecord = false → held (handler effect state).2 = held state

/-- Nothing that was performed alters a record. -/
def Quiet (events : List Event) : Prop := ∀ event ∈ events, event.effect.changesRecord = false

theorem Handler.Leaves.execute {α : Type} {handler : Handler σ} {held : σ → τ}
    (leaves : handler.Leaves held) {routine : Routine α} {state final : σ}
    {result : Except Halt (Except Failure α)} (quiet : Quiet (routine.trace handler state))
    (ended : routine.execute handler state = (result, final)) : held final = held state := by
  have kept : held (routine.execute handler state).2 = held state :=
    Program.run_leaves leaves quiet
  rw [ended] at kept
  exact kept

theorem Hub.hub_of_answer_getSecret {space name : String} {reply : Reply} {failure : Failure}
    (failed : answer (.getSecret space name) reply = .error failure) :
    ∃ cause, failure = .hub cause := by
  change foundOrNone readSecret reply = _ at failed
  unfold foundOrNone at failed
  split at failed
  · cases failed
  · split at failed
    · cases failed
    · exact ⟨_, (Except.error.inj failed).symm⟩
  · exact ⟨_, (Except.error.inj failed).symm⟩

/-- An answer that is in the way of a pass, and how the pass then ends. -/
inductive Event.Aborts (settings : Settings) (config : Config) (space : String) :
    Event → Except Failure Action → Prop where
  | unread {cause : HubFailure} : Aborts settings config space
      ⟨.cluster (.getSecret space (Pass.secretName config)), Except.error (.hub cause)⟩
      (.error (.hub cause))
  | unexchanged {method : AuthMethod} {reply : Http.Reply} {failure : Failure}
      (failed : Token.ofReply reply = .error failure) (hiccup : failure.isTransient = true) :
      Aborts settings config space
        ⟨.send (Token.request ⟨method, settings.authUrlFor config⟩), reply⟩
        (.ok (.requeue settings.transientRetrySecs))
  | unfetched {token : String} {search : Option String} {number : Nat} {reply : Http.Reply}
      {failure : Failure} (failed : Inventory.Page.ofReply reply = .error failure) :
      Aborts settings config space
        ⟨.send ((Pass.listingRequest settings config token search).page number), reply⟩
        (.ok (.requeue settings.transientRetrySecs))
  | sizeless {now : Time.Instant} {search : Option String}
      (begun : config.spec.filters.searchTerm? now = some search)
      (empty : settings.pageSize = 0) :
      Aborts settings config space ⟨.now, now⟩
        (.error (.validation "page size must be positive"))
  | unlisted {failure : Failure} : Aborts settings config space
      ⟨.cluster (.listRecords space), Except.error failure⟩ (.error failure)

namespace Pass

variable {settings : Settings} {config : Config} {space : String} {events : List Event}

/-- How a pass ends that was aborted. -/
inductive Aborted (settings : Settings) (config : Config) (events : List Event) :
    Except Failure Action → Prop where
  | unconventional (other : config.isReconcilable = false) :
      Aborted settings config events (.ok .awaitChange)
  | invalid (problem : config.problem?.isSome = true) :
      Aborted settings config events (.ok .awaitChange)
  | homeless (conventional : config.isReconcilable = true) (valid : config.problem? = none)
      (nowhere : config.metadata.space = none) :
      Aborted settings config events (.error (.internal "DiscoveryConfig has no namespace"))
  | hindered {space : String} {event : Event} {result : Except Failure Action}
      (somewhere : config.metadata.space = some space) (member : event ∈ events)
      (aborts : event.Aborts settings config space result) :
      Aborted settings config events result

def Idle (config : Config) : Prop :=
  config.isReconcilable = false ∨ config.problem?.isSome = true ∨ config.metadata.space = none

def reaction (settings : Settings) (failure : Failure) : Except Failure Action :=
  if failure.isTransient then .ok (.requeue settings.transientRetrySecs) else .error failure

def Unhindered (settings : Settings) (config : Config) (space : String) (events : List Event) :
    Prop :=
  ∀ event ∈ events, ∀ result, ¬ event.Aborts settings config space result

/-- There is a pass to run, no record was altered, and no answer was in the way. -/
structure Calm (settings : Settings) (config : Config) (space : String) (events : List Event) :
    Prop where
  active : ¬ Idle config
  quiet : Quiet events
  unhindered : Unhindered settings config space events

/-- What a search for a canonical set has done by its end: no answer was in the way, or it
ended with the failure that such an answer is. -/
def Searched {α : Type} (settings : Settings) (config : Config) (space : String)
    (events : List Event) : Except Failure α → Prop
  | .ok _ => Calm settings config space events
  | .error failure => Quiet events ∧ ∀ event ∈ events, ∀ aborted,
      event.Aborts settings config space aborted →
        failure.requiresCleanup = false ∧ reaction settings failure = aborted

/-- What a pass has done by its end: if an answer was in the way, it ended accordingly and
altered no record. -/
def Concluded (settings : Settings) (config : Config) (space : String) (events : List Event)
    (result : Except Failure Action) : Prop :=
  ∀ event ∈ events, ∀ aborted, event.Aborts settings config space aborted →
    result = aborted ∧ Quiet events

def vigil (settings : Settings) (config : Config) (space : String) : Discipline (List Event) :=
  .history fun events => Calm settings config space events

section Answers

variable {aborted : Except Failure Action}

theorem of_aborts_getSecret {answer : Except Failure (Option Secret)} {name : String}
    (aborts : Event.Aborts settings config space ⟨.cluster (.getSecret space name), answer⟩
      aborted) :
    ∃ cause, answer = .error (.hub cause) ∧ aborted = .error (.hub cause) := by
  cases aborts
  exact ⟨_, rfl, rfl⟩

theorem of_aborts_send {request : Http.Request} {reply : Http.Reply}
    (aborts : Event.Aborts settings config space ⟨.send request, reply⟩ aborted) :
    aborted = .ok (.requeue settings.transientRetrySecs) ∧
      ((∃ auth failure, request = Token.request auth ∧ Token.ofReply reply = .error failure ∧
        failure.isTransient = true) ∨
      (∃ token search number failure,
        request = (listingRequest settings config token search).page number ∧
          Inventory.Page.ofReply reply = .error failure)) := by
  cases aborts with
  | @unexchanged method _ failure failed hiccup =>
      exact ⟨rfl, Or.inl ⟨_, failure, rfl, failed, hiccup⟩⟩
  | @unfetched token search number _ failure failed =>
      exact ⟨rfl, Or.inr ⟨token, search, number, failure, rfl, failed⟩⟩

theorem of_aborts_now {now : Time.Instant}
    (aborts : Event.Aborts settings config space ⟨.now, now⟩ aborted) :
    config.spec.filters.searchTerm? now ≠ none ∧ settings.pageSize = 0 ∧
      aborted = .error (.validation "page size must be positive") := by
  cases aborts with
  | @sizeless _ search begun empty =>
      refine ⟨?_, empty, rfl⟩
      rw [begun]
      exact nofun

end Answers

theorem quiet_append {event : Event} (quiet : Quiet events)
    (harmless : event.effect.changesRecord = false) : Quiet (events ++ [event]) :=
  List.forall_mem_append.mpr ⟨quiet, List.forall_mem_singleton.mpr harmless⟩

theorem unhindered_append {event : Event} (unhindered : Unhindered settings config space events)
    (clear : ∀ result, ¬ event.Aborts settings config space result) :
    Unhindered settings config space (events ++ [event]) :=
  List.forall_mem_append.mpr ⟨unhindered, List.forall_mem_singleton.mpr clear⟩

theorem Calm.append {event : Event} (calm : Calm settings config space events)
    (harmless : event.effect.changesRecord = false)
    (clear : ∀ result, ¬ event.Aborts settings config space result) :
    Calm settings config space (events ++ [event]) :=
  ⟨calm.active, quiet_append calm.quiet harmless, unhindered_append calm.unhindered clear⟩

theorem Calm.searched {α : Type} {event : Event} {failure : Failure}
    (calm : Calm settings config space events) (harmless : event.effect.changesRecord = false)
    (decides : ∀ aborted, event.Aborts settings config space aborted →
      failure.requiresCleanup = false ∧ reaction settings failure = aborted) :
    Searched settings config space (events ++ [event]) (.error failure : Except Failure α) := by
  refine ⟨quiet_append calm.quiet harmless,
    List.forall_mem_append.mpr ⟨?_, List.forall_mem_singleton.mpr decides⟩⟩
  intro other earlier aborted aborts
  exact absurd aborts (calm.unhindered other earlier aborted)

theorem concluded_of_unhindered {result : Except Failure Action}
    (unhindered : Unhindered settings config space events) :
    Concluded settings config space events result :=
  fun event member aborted aborts => absurd aborts (unhindered event member aborted)

private theorem resolveCredential_searched (calm : Calm settings config space events) :
    (resolveCredential config space).Obeys (vigil settings config space)
      (fun events result => Searched settings config space events result) events := by
  refine resolveCredential_stage (fun _ => ?_) trivial fun _ answer => ?_
  · exact ⟨calm.quiet, fun event member aborted aborts =>
      absurd aborts (calm.unhindered event member aborted)⟩
  · have clear (found : Option Secret) (aborted : Except Failure Action) :
        ¬ Event.Aborts settings config space
          ⟨.cluster (.getSecret space (secretName config)), Except.ok found⟩ aborted := by
      intro aborts
      obtain ⟨cause, impossible, _same⟩ := of_aborts_getSecret aborts
      cases impossible
    cases answer with
    | error failure =>
        refine calm.searched rfl fun aborted aborts => ?_
        obtain ⟨cause, same, rfl⟩ := of_aborts_getSecret aborts
        cases same
        exact ⟨rfl, rfl⟩
    | ok found =>
        have ended (result : Except Failure ResolvedCredential) :
            Searched settings config space
              (events ++ [⟨.cluster (.getSecret space (secretName config)), Except.ok found⟩])
              result := by
          cases result with
          | ok credential => exact calm.append rfl (clear found)
          | error failure =>
              exact calm.searched rfl fun aborted aborts => absurd aborts (clear found aborted)
        exact ended _

private theorem persistUpgrade_calm {resolved : ResolvedCredential}
    (calm : Calm settings config space events) :
    (persistUpgrade config space resolved).Obeys (vigil settings config space)
      (fun events result => Calm settings config space events ∧ result = .ok ()) events := by
  refine persistUpgrade_stage ⟨calm, rfl⟩ (fun _ => trivial) fun method answer => ?_
  refine ⟨calm.append rfl fun aborted aborts => ?_, rfl⟩
  cases aborts

private theorem exchange_searched {method : AuthMethod}
    (calm : Calm settings config space events) :
    (exchange settings config method).Obeys (vigil settings config space)
      (fun events result => Searched settings config space events result) events := by
  refine exchange_stage trivial fun reply => ?_
  have hiccup (aborted : Except Failure Action)
      (aborts : Event.Aborts settings config space
        ⟨.send (Token.request ⟨method, settings.authUrlFor config⟩), reply⟩ aborted) :
      aborted = .ok (.requeue settings.transientRetrySecs) ∧
        ∃ failure, Token.ofReply reply = .error failure ∧ failure.isTransient = true := by
    obtain ⟨same, ⟨auth, failure, _own, failed, transient⟩ | ⟨_, _, _, _, impossible, _⟩⟩ :=
      of_aborts_send aborts
    · exact ⟨same, failure, failed, transient⟩
    · cases impossible
  cases answered : Token.ofReply reply with
  | ok token =>
      refine calm.append rfl fun aborted aborts => ?_
      obtain ⟨_same, failure, failed, _transient⟩ := hiccup aborted aborts
      rw [answered] at failed
      cases failed
  | error failure =>
      refine calm.searched rfl fun aborted aborts => ?_
      obtain ⟨rfl, other, failed, transient⟩ := hiccup aborted aborts
      rw [answered] at failed
      cases failed
      refine ⟨?_, if_pos transient⟩
      rw [← Bool.not_eq_true]
      intro cleanup
      rw [Failure.not_isTransient_of_requiresCleanup cleanup] at transient
      cases transient

private theorem fetch_searched {token : String} {search : Option String} {now : Time.Instant}
    (calm : Calm settings config space events) :
    (Inventory.fetch (listingRequest settings config token search)).Obeys
      (vigil settings config space)
      (fun events result => Searched settings config space events result)
      (events ++ [⟨.now, now⟩]) := by
  refine Inventory.fetch_stage (fun events => Calm settings config space events)
    ?_ ?_ (fun _ _ _ => trivial) ?_ ?_ (fun _ _ calm => calm) (fun _ calm => calm)
  · intro empty
    refine calm.searched rfl fun aborted aborts => ?_
    obtain ⟨_begun, _empty, rfl⟩ := of_aborts_now aborts
    exact ⟨rfl, rfl⟩
  · intro sized
    refine calm.append rfl fun aborted aborts => ?_
    exact sized (of_aborts_now aborts).2.1
  · intro known number reply page calm read
    refine calm.append rfl fun aborted aborts => ?_
    obtain ⟨_same, ⟨_, _, impossible, _⟩ | ⟨_, _, _, failure, _own, failed⟩⟩ :=
      of_aborts_send aborts
    · cases impossible
    · rw [read] at failed
      cases failed
  · intro known number reply failure calm failed
    refine calm.searched rfl fun aborted aborts => ?_
    obtain ⟨rfl, _⟩ := of_aborts_send aborts
    exact ⟨Inventory.requiresCleanup_of_page failed,
      if_pos (Inventory.Page.isTransient_of_ofReply failed)⟩

theorem discover_searched (calm : Calm settings config space events) :
    (discover settings config space).Obeys (vigil settings config space)
      (fun events result => Searched settings config space events result) events := by
  unfold discover
  refine (resolveCredential_searched calm).bind ?_ (fun _ _ searched => searched)
  intro events resolved calm
  refine (persistUpgrade_calm calm).bind ?_ (fun _ _ persisted => by cases persisted.2)
  intro events _done persisted
  refine (exchange_searched persisted.1).bind ?_ (fun _ _ searched => searched)
  intro events token calm
  refine Routine.obeys_bind.mpr (Routine.obeys_perform.mpr ⟨trivial, fun now => ?_⟩)
  refine Routine.obeys_bind.mpr (Routine.obeys_orHalt.mpr
    ⟨fun unbounded => ?_, fun search _begun => ?_⟩)
  · refine Calm.append calm rfl fun aborted aborts => ?_
    exact (of_aborts_now aborts).1 unbounded
  · refine (fetch_searched calm).bind ?_ (fun _ _ searched => searched)
    intro events subscriptions calm
    exact Routine.obeys_orHalt.mpr ⟨fun _ => calm, fun _ _ => calm⟩

/-- A listing that fails decides how the pass ends; after one that succeeds nothing is in the
way any more. -/
private theorem settle_concluded {settle : List Cluster → Routine Unit} (action : Action)
    (calm : Calm settings config space events)
    (settles : ∀ existing events, Unhindered settings config space events →
      (settle existing).Obeys (vigil settings config space)
        (fun events _ => Unhindered settings config space events) events) :
    (Routine.call (.listRecords space) >>= settle).Obeys (vigil settings config space)
      (fun events result => Concluded settings config space events (result.map fun _ => action))
      events := by
  refine Routine.obeys_bind.mpr (Routine.obeys_call.mpr ⟨trivial, fun answer => ?_⟩)
  cases answer with
  | error failure =>
      refine List.forall_mem_append.mpr
        ⟨fun event earlier aborted aborts => ?_, List.forall_mem_singleton.mpr ?_⟩
      · exact absurd aborts (calm.unhindered event earlier aborted)
      · intro aborted aborts
        cases aborts
        exact ⟨rfl, quiet_append calm.quiet rfl⟩
  | ok existing =>
      refine (settles existing _ ?_).mono fun _ _ => concluded_of_unhindered
      refine unhindered_append calm.unhindered fun aborted aborts => ?_
      cases aborts

private theorem apply_unhindered {plan : Plan}
    (unhindered : Unhindered settings config space events) :
    (plan.apply space).Obeys (vigil settings config space)
      (fun events _ => Unhindered settings config space events) events := by
  refine Plan.applyAll_stage ?_ ?_ unhindered
  · intro events mutation _planned unhindered
    refine ⟨trivial, fun answer => unhindered_append unhindered fun aborted aborts => ?_⟩
    cases mutation <;> cases aborts
  · intro events measurement unhindered
    refine ⟨trivial, fun answer => unhindered_append unhindered fun aborted aborts => ?_⟩
    cases aborts

private theorem converge_concluded {canonical : Keyed ClusterSpec} (action : Action)
    (calm : Calm settings config space events) :
    (converge config space canonical).Obeys (vigil settings config space)
      (fun events result => Concluded settings config space events (result.map fun _ => action))
      events := by
  refine settle_concluded action calm fun existing events unhindered => ?_
  refine (apply_unhindered unhindered).bind ?_ (fun _ _ unhindered => unhindered)
  intro events _done unhindered
  refine (Routine.obeys_perform (e := .nudge)).mpr ⟨trivial, fun answer => ?_⟩
  refine unhindered_append unhindered fun aborted aborts => ?_
  cases aborts

private theorem removeAll_concluded (action : Action)
    (calm : Calm settings config space events) :
    (removeAll space).Obeys (vigil settings config space)
      (fun events result => Concluded settings config space events (result.map fun _ => action))
      events :=
  settle_concluded action calm fun _ _ unhindered => apply_unhindered unhindered

private theorem run_concluded (calm : Calm settings config space events) :
    (run settings config space).Obeys (vigil settings config space)
      (fun events result => Concluded settings config space events (result.map Prod.fst))
      events := by
  unfold run
  refine Routine.obeys_bind.mpr (Routine.obeys_attempt.mpr ((discover_searched calm).mono ?_))
  intro events result searched
  cases result with
  | ok canonical =>
      exact (converge_concluded (.requeue settings.refreshSecs) searched).bind
        (fun _ _ concluded => Routine.obeys_pure.mpr concluded) (fun _ _ concluded => concluded)
  | error failure =>
      obtain ⟨quiet, decided⟩ := searched
      simp only
      split
      · rename_i cleanup
        have calmStill : Calm settings config space events := by
          refine ⟨calm.active, quiet, fun event member aborted aborts => ?_⟩
          rw [(decided event member aborted aborts).1] at cleanup
          cases cleanup
        exact (removeAll_concluded (.requeue settings.refreshSecs) calmStill).bind
          (fun _ _ concluded => Routine.obeys_pure.mpr concluded) (fun _ _ concluded => concluded)
      · have reacts (event : Event) (member : event ∈ events) (aborted : Except Failure Action)
            (aborts : event.Aborts settings config space aborted) :
            reaction settings failure = aborted := (decided event member aborted aborts).2
        unfold reaction at reacts
        split
        · rename_i transient
          simp only [transient, if_true] at reacts
          exact Routine.obeys_pure.mpr fun event member aborted aborts =>
            ⟨reacts event member aborted aborts, quiet⟩
        · rename_i lasting
          simp only [lasting] at reacts
          exact Routine.obeys_ofExcept.mpr fun event member aborted aborts =>
            ⟨reacts event member aborted aborts, quiet⟩

private theorem runMeasured_concluded (calm : Calm settings config space events) :
    (runMeasured settings config space).Obeys (vigil settings config space)
      (fun events result => Concluded settings config space events result) events := by
  unfold runMeasured
  refine Routine.obeys_bind.mpr (Routine.obeys_attempt.mpr ((run_concluded calm).mono ?_))
  intro events result concluded
  refine Routine.obeys_bind.mpr ((Routine.obeys_perform (e := .measure _)).mpr
    ⟨trivial, fun answer => Routine.obeys_ofExcept.mpr ?_⟩)
  refine List.forall_mem_append.mpr
    ⟨fun event earlier aborted aborts => ?_, List.forall_mem_singleton.mpr ?_⟩
  · obtain ⟨same, quiet⟩ := concluded event earlier aborted aborts
    exact ⟨same, quiet_append quiet rfl⟩
  · intro aborted aborts
    cases aborts

def Uninvolved (events : List Event) : Prop :=
  ∀ event ∈ events, event.effect = .cluster .countConfigs ∨
    ∃ measurement, event.effect = .measure measurement

theorem Uninvolved.quiet (uninvolved : Uninvolved events) : Quiet events := by
  intro event member
  obtain counts | ⟨measurement, measures⟩ := uninvolved event member
  · rw [counts]
    rfl
  · rw [measures]
    rfl

theorem Uninvolved.asksNothing (uninvolved : Uninvolved events) :
    ∀ event ∈ events, event.effect.isInquiry = false := by
  intro event member
  obtain counts | ⟨measurement, measures⟩ := uninvolved event member
  · rw [counts]
    rfl
  · rw [measures]
    rfl

theorem Uninvolved.unhindered (uninvolved : Uninvolved events) :
    Unhindered settings config space events := by
  intro event member result aborts
  obtain counts | ⟨measurement, measures⟩ := uninvolved event member
  · cases aborts <;> cases counts
  · cases aborts <;> cases measures

private theorem measureConfigs_uninvolved :
    measureConfigs.Obeys (vigil settings config space)
      (fun events result => Uninvolved events ∧ result = .ok ()) [] := by
  have append (events : List Event) (event : Event) (uninvolved : Uninvolved events)
      (here : event.effect = .cluster .countConfigs ∨
        ∃ measurement, event.effect = .measure measurement) :
      Uninvolved (events ++ [event]) :=
    List.forall_mem_append.mpr ⟨uninvolved, List.forall_mem_singleton.mpr here⟩
  refine measureConfigs_stage (fun _ _ => ⟨trivial, fun _ => trivial⟩) ?_ ?_ ?_
  · intro events answer uninvolved
    exact append events _ uninvolved (Or.inl rfl)
  · intro events measurement answer uninvolved
    exact append events _ uninvolved (Or.inr ⟨measurement, rfl⟩)
  · intro event member
    cases member

structure Reconciled (settings : Settings) (config : Config) (events : List Event)
    (result : Except Failure Action) : Prop where
  decided : ∀ aborted, Aborted settings config events aborted → result = aborted ∧ Quiet events
  idle : Idle config → ∀ event ∈ events, event.effect.isInquiry = false

theorem Uninvolved.reconciled {result : Except Failure Action} (uninvolved : Uninvolved events)
    (decided : ∀ aborted, Aborted settings config [] aborted → result = aborted) :
    Reconciled settings config events result := by
  refine ⟨fun aborted isAborted => ⟨decided aborted ?_, uninvolved.quiet⟩,
    fun _ => uninvolved.asksNothing⟩
  cases isAborted with
  | unconventional other => exact .unconventional other
  | invalid problem => exact .invalid problem
  | homeless conventional valid nowhere => exact .homeless conventional valid nowhere
  | hindered somewhere member aborts =>
      exact absurd aborts (uninvolved.unhindered _ member _)

theorem reconcile_reconciled
    (home : ∀ other, config.metadata.space = some other → other = space) :
    (reconcile settings config).Obeys (vigil settings config space)
      (fun events result => Reconciled settings config events result) [] := by
  unfold reconcile
  refine measureConfigs_uninvolved.bind ?_ (fun _ _ counted => by cases counted.2)
  rintro events _counted ⟨uninvolved, _done⟩
  split
  · rename_i other
    have unconventional : config.isReconcilable = false := by simpa using other
    refine Routine.obeys_pure.mpr (uninvolved.reconciled fun aborted isAborted => ?_)
    cases isAborted with
    | unconventional _ => rfl
    | invalid _ => rfl
    | homeless conventional _ _ =>
        rw [unconventional] at conventional
        cases conventional
    | hindered _ member _ => cases member
  rename_i conventional
  have named : config.isReconcilable = true := by simpa using conventional
  split
  · rename_i problem
    refine Routine.obeys_pure.mpr (uninvolved.reconciled fun aborted isAborted => ?_)
    cases isAborted with
    | unconventional _ => rfl
    | invalid _ => rfl
    | homeless _ valid _ =>
        rw [valid] at problem
        cases problem
    | hindered _ member _ => cases member
  rename_i unproblematic
  have valid : config.problem? = none := by simpa using unproblematic
  split
  · rename_i nowhere
    refine Routine.obeys_ofExcept.mpr (uninvolved.reconciled fun aborted isAborted => ?_)
    cases isAborted with
    | unconventional other =>
        rw [named] at other
        cases other
    | invalid problem => exact absurd problem unproblematic
    | homeless _ _ _ => rfl
    | hindered _ member _ => cases member
  · rename_i found somewhere
    have active : ¬ Idle config := by
      rintro (other | problem | nowhere)
      · rw [named] at other
        cases other
      · exact unproblematic problem
      · rw [somewhere] at nowhere
        cases nowhere
    obtain rfl := home found somewhere
    have calm : Calm settings config found events :=
      ⟨active, uninvolved.quiet, uninvolved.unhindered⟩
    refine (runMeasured_concluded calm).mono fun events result concluded => ?_
    refine ⟨fun aborted isAborted => ?_, fun idle => absurd idle active⟩
    cases isAborted with
    | unconventional other => exact absurd (Or.inl other) active
    | invalid problem => exact absurd (Or.inr (Or.inl problem)) active
    | homeless _ _ nowhere => exact absurd (Or.inr (Or.inr nowhere)) active
    | hindered elsewhere member aborts =>
        obtain rfl := home _ elsewhere
        exact concluded _ member aborted aborts

section Runs

variable {handler : Handler σ} {state final : σ} {result : Except Failure Action}

private theorem reconciled (settings : Settings) (config : Config) (handler : Handler σ)
    (state : σ) :
    (∃ result final, (reconcile settings config).execute handler state = (.ok result, final) ∧
      Reconciled settings config ((reconcile settings config).trace handler state) result) ∨
    (∃ reason final, (reconcile settings config).execute handler state = (.error reason, final) ∧
      Calm settings config (config.metadata.space.getD "")
        ((reconcile settings config).trace handler state)) := by
  have obeyed : (reconcile settings config).Obeys
      (vigil settings config (config.metadata.space.getD ""))
      (fun events result => Reconciled settings config events result) [] := by
    refine reconcile_reconciled fun other somewhere => ?_
    rw [somewhere]
    rfl
  rcases ended : (reconcile settings config).execute handler state with ⟨outcome, final⟩
  cases outcome with
  | ok result => exact Or.inl ⟨result, final, rfl, obeyed.of_trace ended⟩
  | error reason => exact Or.inr ⟨reason, final, rfl, obeyed.stops_of_trace ended⟩

theorem reconcile_of_aborted
    (aborted : Aborted settings config ((reconcile settings config).trace handler state) result) :
    (∃ final, (reconcile settings config).execute handler state = (.ok result, final)) ∧
      Quiet ((reconcile settings config).trace handler state) := by
  rcases reconciled settings config handler state with
    ⟨other, final, ended, done⟩ | ⟨reason, final, _ended, calm⟩
  · obtain ⟨rfl, quiet⟩ := done.decided result aborted
    exact ⟨⟨final, ended⟩, quiet⟩
  · exfalso
    cases aborted with
    | unconventional other => exact calm.active (Or.inl other)
    | invalid problem => exact calm.active (Or.inr (Or.inl problem))
    | homeless _ _ nowhere => exact calm.active (Or.inr (Or.inr nowhere))
    | hindered somewhere member aborts =>
        rw [somewhere] at calm
        exact calm.unhindered _ member _ aborts

theorem quiet_of_halted {reason : Halt}
    (halted : (reconcile settings config).execute handler state = (.error reason, final)) :
    Quiet ((reconcile settings config).trace handler state) := by
  rcases reconciled settings config handler state with
    ⟨result, other, ended, _done⟩ | ⟨_reason, _final, _ended, calm⟩
  · rw [halted] at ended
    cases ended
  · exact calm.quiet

theorem isInquiry_of_idle (idle : Idle config) :
    ∀ event ∈ (reconcile settings config).trace handler state,
      event.effect.isInquiry = false := by
  rcases reconciled settings config handler state with
    ⟨result, final, _ended, done⟩ | ⟨reason, final, _ended, calm⟩
  · exact done.idle idle
  · exact absurd idle calm.active

/-- An aborted pass touches nothing. Whatever was in its way, it ends as that says, and the
records are as they were; so are they after a pass that stopped short. A pass whose
configuration is not one to act upon reads no secret and sends no request. The cluster's API
gives no other reason for a secret that cannot be read than its own failure. -/
theorem aborted_pass_touches_nothing {held : σ → τ} (leaves : handler.Leaves held) (state : σ) :
    (∀ result, Aborted settings config ((reconcile settings config).trace handler state) result →
      ∃ final, (reconcile settings config).execute handler state = (.ok result, final) ∧
        Quiet ((reconcile settings config).trace handler state) ∧ held final = held state) ∧
    (∀ reason final, (reconcile settings config).execute handler state = (.error reason, final) →
      Quiet ((reconcile settings config).trace handler state) ∧ held final = held state) ∧
    (Idle config → ∀ event ∈ (reconcile settings config).trace handler state,
      (∀ space name, event.effect ≠ .cluster (.getSecret space name)) ∧
        ∀ request, event.effect ≠ .send request) ∧
    (∀ space name reply failure, Hub.answer (.getSecret space name) reply = .error failure →
      ∃ cause, failure = .hub cause) := by
  refine ⟨?_, ?_, ?_, ?_⟩
  · intro result aborted
    obtain ⟨⟨final, ended⟩, quiet⟩ := reconcile_of_aborted aborted
    exact ⟨final, ended, quiet, leaves.execute quiet ended⟩
  · intro reason final halted
    have quiet := quiet_of_halted halted
    exact ⟨quiet, leaves.execute quiet halted⟩
  · intro idle event member
    have outside := isInquiry_of_idle idle event member
    refine ⟨fun space name same => ?_, fun request same => ?_⟩
    · rw [same] at outside
      cases outside
    · rw [same] at outside
      cases outside
  · intro space name reply failure failed
    exact Hub.hub_of_answer_getSecret failed

end Runs

end Pass

def Event.isReply (request : Http.Request) (reply : Http.Reply) : Event → Bool
  | ⟨.send asked, answer⟩ =>
      let answer : Http.Reply := answer
      asked == request && answer == reply
  | _ => false

theorem Event.mem_of_any_isReply {events : List Event} {request : Http.Request}
    {reply : Http.Reply} (found : events.any (isReply request reply) = true) :
    ⟨.send request, reply⟩ ∈ events := by
  obtain ⟨event, member, same⟩ := List.any_eq_true.mp found
  unfold isReply at same
  split at same
  · rename_i asked answer
    obtain ⟨asks, answers⟩ := Bool.and_eq_true_iff.mp same
    rw [← eq_of_beq asks, ← eq_of_beq answers]
    exact member
  · cases same

theorem World.leaves : Handler.Leaves handle fun world => world.store.records :=
  fun _ _ harmless => records_of_unchanging harmless

theorem World.serving_leaves (token : Http.Reply) (page : Nat → Http.Reply) :
    Handler.Leaves (serving token page) fun world => world.store.records := by
  intro effect world harmless
  cases effect with
  | send request => cases request <;> rfl
  | _ => exact leaves _ world harmless

namespace Pass

section Sample

def pairwise : Settings := { Settings.standard with pageSize := 2 }

/-- A full page is followed by an outage: the pass will come again, and the record stays. -/
theorem aborted_pass_touches_nothing_sample :
    ∃ final, (reconcile pairwise Sample.config).execute
        (World.serving Sample.granted Inventory.sampleOutage)
        (Sample.world [Sample.record "b"]) = (.ok (.ok (.requeue 300)), final) ∧
      Quiet ((reconcile pairwise Sample.config).trace
        (World.serving Sample.granted Inventory.sampleOutage)
        (Sample.world [Sample.record "b"])) ∧
      final.store.records = [Sample.record "b"] := by
  have answered : ((reconcile pairwise Sample.config).trace
      (World.serving Sample.granted Inventory.sampleOutage)
      (Sample.world [Sample.record "b"])).any
        (Event.isReply ((listingRequest pairwise Sample.config "t" none).page 2)
          .unreachable) = true := by
    decide +kernel
  have aborted : Aborted pairwise Sample.config _ (.ok (.requeue 300)) :=
    .hindered rfl (Event.mem_of_any_isReply answered) (.unfetched rfl)
  obtain ⟨ends, _⟩ := aborted_pass_touches_nothing
    (World.serving_leaves Sample.granted Inventory.sampleOutage) (Sample.world [Sample.record "b"])
  exact ends _ aborted

end Sample

end Pass

end ClusterDiscovery

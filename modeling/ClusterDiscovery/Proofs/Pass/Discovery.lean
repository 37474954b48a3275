/-
Discovery before the records are touched.

Until the canonical set is there a pass reads its secret, may upgrade it, sends requests
and looks at the clock; it neither lists nor writes a record. Every specification of the
set stands under its own name and describes an admissible subscription. How the search
ends decides how the pass goes on: it converges, it cleans up, or it touches nothing.
-/

import ClusterDiscovery.Proofs.Inventory.Canonical
import ClusterDiscovery.Proofs.Pass.Stages
import ClusterDiscovery.Proofs.Plan.Settlement

namespace ClusterDiscovery

variable {κ σ : Type}

def Effect.isInquiry : Effect → Bool
  | .cluster (.getSecret _ _) => true
  | .cluster (.setAuthMethod _ _ _) => true
  | .send _ => true
  | .now => true
  | _ => false

def Effect.isInquiryIn (space : String) : Effect → Bool
  | .cluster (.getSecret place _) => place == space
  | .cluster (.setAuthMethod place _ _) => place == space
  | effect => effect.isInquiry

theorem Effect.isInquiry_of_isInquiryIn {space : String} {effect : Effect}
    (inquiry : effect.isInquiryIn space = true) : effect.isInquiry = true := by
  cases effect with
  | cluster call => cases call <;> first | rfl | exact inquiry
  | _ => exact inquiry

theorem Effect.changesRecord_of_isInquiry {effect : Effect} (inquiry : effect.isInquiry = true) :
    effect.changesRecord = false := by
  cases effect with
  | cluster call => cases call <;> first | rfl | cases inquiry
  | _ => rfl

def Handler.Undisturbed (handler : Handler σ) (held : σ → List Cluster) : Prop :=
  ∀ effect state, effect.isInquiry = true → held (handler effect state).2 = held state

namespace Inventory

variable {filter : Filter} {credential : CredentialRef} {now : Time.Instant}
  {subscriptions : List Subscription} {canonical : Keyed ClusterSpec}

/-- A specification that a filter admits of some inventory, whatever the cutoff. -/
def Yields (filter : Filter) (credential : CredentialRef) (spec : ClusterSpec) : Prop :=
  ∃ cutoff subscription, Subscription.Admissible filter cutoff subscription ∧
    subscription.recordSpec? credential = some spec

def Collected (filter : Filter) (credential : CredentialRef) (canonical : Keyed ClusterSpec) :
    Prop :=
  ∀ key spec, canonical.get? key = some spec → spec.name = key ∧ Yields filter credential spec

theorem Yields.describes {spec : ClusterSpec} (yields : Yields filter credential spec) :
    ∃ cutoff subscription, Subscription.Admissible filter cutoff subscription ∧
      subscription.Describes credential spec := by
  obtain ⟨cutoff, subscription, admissible, made⟩ := yields
  exact ⟨cutoff, subscription, admissible, Subscription.describes_of_recordSpec? made⟩

theorem collected_of_canonicalSet?
    (collected : canonicalSet? filter credential now subscriptions = some canonical) :
    Collected filter credential canonical := by
  obtain ⟨cutoff, _known, rfl⟩ := Option.map_eq_some_iff.mp collected
  intro key spec found
  obtain ⟨subscription, last, made⟩ := get?_canonicalSet_eq_some_iff.mp found
  refine ⟨?_, cutoff, subscription, last.admissible, made⟩
  rw [(Subscription.describes_of_recordSpec? made).name]
  exact last.identified

theorem Collected.named (collected : Collected filter credential canonical) :
    Plan.Named canonical :=
  fun key spec found => (collected key spec found).1

theorem requiresCleanup_of_page {reply : Http.Reply} {failure : Failure}
    (failed : Page.ofReply reply = .error failure) : failure.requiresCleanup = false := by
  unfold Page.ofReply Page.ofResponse refused malformed at failed
  split at failed
  · cases failed
    rfl
  · cases failed
    rfl
  · split at failed
    · split at failed
      · cases failed
        rfl
      · cases failed
    · have sameFailure := Except.error.inj failed
      rw [← sameFailure]
      split
      · rfl
      · split
        · rfl
        · split <;> rfl

/-- Fetching the inventory asks for pages and does nothing else, and its failures ask for no
cleanup. -/
theorem fetch_obeys {rule : Discipline κ} {invariant : κ → Prop} {request : ListingRequest}
    (asks : ∀ known number, invariant known →
      rule.permits known (.send (request.page number)) ∧
        ∀ reply, invariant (rule.learns known (.send (request.page number)) reply))
    (stopping : ∀ known, invariant known → rule.stops known) {known : κ}
    (initially : invariant known) :
    (fetch request).Obeys rule (fun known result => invariant known ∧
      ∀ failure, result = .error failure → failure.requiresCleanup = false) known := by
  refine fetch_stage invariant ?_ (fun _ => initially) (fun known number holds =>
    (asks known number holds).1) ?_ ?_ ?_ stopping
  · intro _empty
    refine ⟨initially, ?_⟩
    intro failure same
    cases same
    rfl
  · intro known number reply page holds _read
    exact (asks known number holds).2 reply
  · intro known number reply failure holds unread
    refine ⟨(asks known number holds).2 reply, ?_⟩
    intro other same
    cases same
    exact requiresCleanup_of_page unread
  · intro known subscriptions holds
    refine ⟨holds, ?_⟩
    intro failure impossible
    cases impossible

end Inventory

namespace Pass

variable {settings : Settings} {config : Config} {space : String}

/-- A pass of a configuration may find a set in its namespace. -/
def Found (config : Config) (space : String) (canonical : Keyed ClusterSpec) : Prop :=
  Inventory.Collected config.spec.filters ⟨secretName config, space⟩ canonical

section Search

variable {rule : Discipline κ}
  (permitted : ∀ known effect, effect.isInquiryIn space = true → rule.permits known effect)

include permitted

theorem resolveCredential_obeys (known : κ) :
    (resolveCredential config space).Obeys rule (fun _ _ => True) known :=
  resolveCredential_stage (fun _ => trivial) (permitted _ _ (beq_self_eq_true space))
    fun _ _ => trivial

theorem persistUpgrade_obeys (resolved : ResolvedCredential) (known : κ) :
    (persistUpgrade config space resolved).Obeys rule (fun _ _ => True) known :=
  persistUpgrade_stage trivial (fun _ => permitted _ _ (beq_self_eq_true space))
    fun _ _ => trivial

theorem exchange_obeys (method : AuthMethod) (known : κ) :
    (exchange settings config method).Obeys rule (fun _ _ => True) known :=
  exchange_stage (permitted _ _ rfl) fun _ => trivial

/-- Discovery performs inquiries in its namespace only, and what it finds is a canonical
set. -/
theorem discover_obeys (stopping : ∀ known, rule.stops known) (known : κ) :
    (discover settings config space).Obeys rule (fun _ result =>
      ∀ canonical, result = .ok canonical → Found config space canonical) known := by
  have noFailure (failure : Failure) (canonical : Keyed ClusterSpec) :
      (Except.error failure : Except Failure (Keyed ClusterSpec)) = .ok canonical →
        Found config space canonical := by
    intro impossible
    cases impossible
  unfold discover
  refine (resolveCredential_obeys permitted known).bind ?_ (fun _ failure _ => noFailure failure)
  intro known resolved _resolved
  refine (persistUpgrade_obeys permitted resolved known).bind ?_
    (fun _ failure _ => noFailure failure)
  intro known _done _persisted
  refine (exchange_obeys permitted _ known).bind ?_ (fun _ failure _ => noFailure failure)
  intro known token _exchanged
  refine Routine.obeys_bind.mpr (Routine.obeys_perform.mpr ⟨permitted _ _ rfl, ?_⟩)
  intro now
  refine Routine.obeys_bind.mpr (Routine.obeys_orHalt.mpr ⟨fun _ => stopping _, ?_⟩)
  intro search _inBounds
  have asks (known : κ) (number : Nat) (_ : True) :
      rule.permits known (.send ((listingRequest settings config token search).page number)) ∧
        ∀ _reply : Http.Reply, True :=
    ⟨permitted known _ rfl, fun _ => trivial⟩
  refine (Inventory.fetch_obeys asks (fun known _ => stopping known) trivial).bind ?_
    (fun _ failure _ => noFailure failure)
  intro known subscriptions _fetched
  refine Routine.obeys_orHalt.mpr ⟨fun _ => stopping _, ?_⟩
  intro found collected canonical same
  cases same
  exact Inventory.collected_of_canonicalSet? collected

end Search

variable {handler : Handler σ} {state discovered : σ} {canonical : Keyed ClusterSpec}

theorem discover_inquires : (discover settings config space).Obeys
    (Discipline.plain fun effect => effect.isInquiryIn space = true)
    (fun _ result => ∀ canonical, result = .ok canonical → Found config space canonical) () :=
  discover_obeys (fun _ _ inquiry => inquiry) (fun _ => trivial) ()

theorem named_of_discover
    (fetched : (discover settings config space).execute handler state =
      (.ok (.ok canonical), discovered)) : Plan.Named canonical :=
  (discover_inquires.program.run fetched canonical rfl).named

theorem isInquiry_of_mem_trace_discover {event : Event}
    (member : event ∈ (discover settings config space).trace handler state) :
    event.effect.isInquiry = true :=
  Effect.isInquiry_of_isInquiryIn (discover_inquires.program.permits_of_mem_trace member)

theorem unchanging_trace_discover {event : Event}
    (member : event ∈ (discover settings config space).trace handler state) :
    event.effect.changesRecord = false :=
  Effect.changesRecord_of_isInquiry (isInquiry_of_mem_trace_discover member)

theorem writes_trace_discover :
    writes ((discover settings config space).trace handler state) = [] :=
  writes_eq_nil fun _ member => unchanging_trace_discover member

theorem held_discover {held : σ → List Cluster} (undisturbed : handler.Undisturbed held)
    {result : Except Halt (Except Failure (Keyed ClusterSpec))}
    (ended : (discover settings config space).execute handler state = (result, discovered)) :
    held discovered = held state := by
  have kept : held ((discover settings config space).execute handler state).2 = held state :=
    discover_inquires.program.preserves (fun effect state inquiry =>
      undisturbed effect state (Effect.isInquiry_of_isInquiryIn inquiry)) state
  rw [ended] at kept
  exact kept

theorem execute_run_of_discovered
    (fetched : (discover settings config space).execute handler state =
      (.ok (.ok canonical), discovered)) :
    (run settings config space).execute handler state =
      (converge config space canonical >>= fun _ =>
        pure (.requeue settings.refreshSecs, .applied)).execute handler discovered := by
  unfold run
  rw [Routine.execute_bind_of_ok (Routine.execute_attempt_of_ok fetched)]

theorem trace_run_of_discovered
    (fetched : (discover settings config space).execute handler state =
      (.ok (.ok canonical), discovered)) :
    (run settings config space).trace handler state =
      (discover settings config space).trace handler state ++
        (converge config space canonical).trace handler discovered := by
  unfold run
  rw [Routine.trace_bind_of_ok (Routine.execute_attempt_of_ok fetched), Routine.trace_attempt]
  congr 1
  rw [Routine.trace_bind]
  split <;> exact List.append_nil _

/-- A pass that found no set, and has no reason to clean up, touches nothing more. -/
theorem execute_run_of_unfetched {failure : Failure}
    (unfetched : (discover settings config space).execute handler state =
      (.ok (.error failure), discovered))
    (harmless : failure.requiresCleanup = false) :
    ∃ result, (run settings config space).execute handler state = (.ok result, discovered) ∧
      (∀ action, result ≠ .ok (action, .cleanup)) ∧
      (run settings config space).trace handler state =
        (discover settings config space).trace handler state := by
  unfold run
  rw [Routine.execute_bind_of_ok (Routine.execute_attempt_of_ok unfetched),
    Routine.trace_bind_of_ok (Routine.execute_attempt_of_ok unfetched), Routine.trace_attempt]
  simp only [harmless, Bool.false_eq_true, if_false]
  split
  · refine ⟨_, rfl, ?_, List.append_nil _⟩
    intro action impossible
    cases impossible
  · refine ⟨_, rfl, ?_, List.append_nil _⟩
    intro action impossible
    cases impossible

def CleansUp (handler : Handler σ) (settings : Settings) (config : Config) (space : String)
    (state discovered : σ) : Prop :=
  ∃ failure, (discover settings config space).execute handler state =
    (.ok (.error failure), discovered) ∧ failure.requiresCleanup = true

theorem execute_run_of_cleansUp
    (cleansUp : CleansUp handler settings config space state discovered) :
    (run settings config space).execute handler state =
      (removeAll space >>= fun _ =>
        pure (.requeue settings.refreshSecs, .cleanup)).execute handler discovered := by
  obtain ⟨failure, unfetched, cleanup⟩ := cleansUp
  unfold run
  rw [Routine.execute_bind_of_ok (Routine.execute_attempt_of_ok unfetched)]
  simp only [cleanup, if_true]

theorem trace_run_of_cleansUp
    (cleansUp : CleansUp handler settings config space state discovered) :
    (run settings config space).trace handler state =
      (discover settings config space).trace handler state ++
        (removeAll space).trace handler discovered := by
  obtain ⟨failure, unfetched, cleanup⟩ := cleansUp
  unfold run
  rw [Routine.trace_bind_of_ok (Routine.execute_attempt_of_ok unfetched), Routine.trace_attempt]
  congr 1
  simp only [cleanup, if_true]
  rw [Routine.trace_bind]
  split <;> exact List.append_nil _

end Pass

end ClusterDiscovery

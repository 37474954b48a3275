/-
Reactions to failures.

Three tests say how the operator reacts to a failure. Each is a case analysis of its own, so that
they agree has to be shown of every failure. A mutation that fails wraps the failure of its call,
and a wrapped failure may be wrapped again, to any depth. Whether a retry can help is asked of the
failure under all the wrappings, while a wrapping alone keeps a failure from removing the records
and from passing for a hiccup of the remote side.
-/

import ClusterDiscovery.Pass.Apply

namespace ClusterDiscovery.Failure

def isWrapped : Failure → Bool
  | .applyPartial _ _ _ => true
  | _ => false

/-- The innermost source of a failure, or the failure itself if it has none. -/
def origin : Failure → Failure
  | .applyPartial _ _ source => source.origin
  | failure => failure

/-- A failure wrapped by one mutation after the other, the outermost one first. -/
def wrap (layers : List (WriteAction × String)) (source : Failure) : Failure :=
  layers.foldr (fun layer inner => .applyPartial layer.1 layer.2 inner) source

variable {failure : Failure}

theorem isRetryable_of_isTransient (transient : failure.isTransient = true) :
    failure.isRetryable = true := by
  cases failure with
  | auth rejection code tag description => exact transient
  | missingAccessToken => rfl
  | fetchTransient code message => rfl
  | malformedResponse endpoint message raw => rfl
  | _ => cases transient

theorem not_isRetryable_of_requiresCleanup (cleanup : failure.requiresCleanup = true) :
    failure.isRetryable = false := by
  cases failure with
  | credentialUnavailable secret message => rfl
  | badCredentialFormat message => rfl
  | auth rejection code tag description => exact not_isTransient_of_requiresCleanup cleanup
  | _ => cases cleanup

theorem isWrapped_origin (failure : Failure) : failure.origin.isWrapped = false := by
  induction failure with
  | applyPartial action name source ih => exact ih
  | _ => rfl

theorem isRetryable_origin (failure : Failure) :
    failure.origin.isRetryable = failure.isRetryable := by
  induction failure with
  | applyPartial action name source ih => exact ih
  | _ => rfl

/-- A failure is its innermost source in as many wrappings as it has. -/
theorem exists_wrap_origin (failure : Failure) : ∃ layers, wrap layers failure.origin = failure := by
  induction failure with
  | applyPartial action name source ih =>
      obtain ⟨layers, same⟩ := ih
      refine ⟨(action, name) :: layers, ?_⟩
      change applyPartial action name (wrap layers source.origin) = _
      rw [same]
  | _ => exact ⟨[], rfl⟩

theorem origin_wrap (layers : List (WriteAction × String)) (failure : Failure) :
    (wrap layers failure).origin = failure.origin := by
  induction layers with
  | nil => rfl
  | cons layer rest ih => exact ih

theorem isRetryable_wrap (layers : List (WriteAction × String)) (failure : Failure) :
    (wrap layers failure).isRetryable = failure.origin.isRetryable := by
  rw [← isRetryable_origin, origin_wrap]

theorem isRetryable_ofMutation (action : WriteAction) (name : String) (failure : Failure) :
    (failure.ofMutation action name).isRetryable = failure.isRetryable := by
  cases failure <;> rfl

/-- The failure of a mutation neither removes records nor passes for a hiccup. -/
theorem reactions_ofMutation (action : WriteAction) (name : String) (failure : Failure) :
    (failure.ofMutation action name).requiresCleanup = false ∧
      (failure.ofMutation action name).isTransient = false := by
  cases failure <;> exact ⟨rfl, rfl⟩

theorem isRetryable_api_iff (status : ApiStatus) :
    (hub (.api status)).isRetryable = true ↔
      ¬ (400 ≤ status.code ∧ status.code ≤ 499) ∨ status.code = 409 ∨ status.code = 429 := by
  unfold isRetryable HubFailure.isRefusal
  simp only [Bool.not_eq_true', Bool.and_eq_false_iff, decide_eq_false_iff_not, bne_eq_false_iff_eq]
  omega

/-- The three tests agree on every failure: none asks for cleanup and passes for a hiccup, a
hiccup can be retried, and what asks for cleanup cannot. A failure in wrappings can be retried
exactly if its innermost source can, and a wrapping rules out the other two. The failure of a
mutation can be retried exactly if that of its call can. An answer of the cluster's API can be
retried unless it blames the request and neither a concurrent write nor the rate. -/
theorem reactions_agree (failure : Failure) :
    ¬ (failure.requiresCleanup = true ∧ failure.isTransient = true) ∧
    (failure.isTransient = true → failure.isRetryable = true) ∧
    (failure.requiresCleanup = true → failure.isRetryable = false) ∧
    ((∃ layers, wrap layers failure.origin = failure) ∧ failure.origin.isWrapped = false) ∧
    (∀ layers, (wrap layers failure).isRetryable = failure.origin.isRetryable) ∧
    (∀ layer layers, (wrap (layer :: layers) failure).requiresCleanup = false ∧
      (wrap (layer :: layers) failure).isTransient = false) ∧
    (∀ action name, (failure.ofMutation action name).isRetryable = failure.isRetryable ∧
      (failure.ofMutation action name).requiresCleanup = false ∧
      (failure.ofMutation action name).isTransient = false) ∧
    ∀ status : ApiStatus, (hub (.api status)).isRetryable = true ↔
      ¬ (400 ≤ status.code ∧ status.code ≤ 499) ∨ status.code = 409 ∨ status.code = 429 := by
  refine ⟨?_, isRetryable_of_isTransient, not_isRetryable_of_requiresCleanup,
    ⟨exists_wrap_origin failure, isWrapped_origin failure⟩, fun layers => isRetryable_wrap _ _,
    fun layer layers => ⟨rfl, rfl⟩, fun action name => ⟨isRetryable_ofMutation _ _ _, ?_⟩,
    isRetryable_api_iff⟩
  · intro ⟨cleanup, transient⟩
    rw [not_isTransient_of_requiresCleanup cleanup] at transient
    cases transient
  · exact reactions_ofMutation action name failure

/-- A rejection that removes the records when it is met in the open does not when it stopped a
mutation, and a hiccup can be retried in the open and in two wrappings. -/
theorem reactions_agree_sample :
    (auth .unauthorized 403 "denied" "no access").requiresCleanup = true ∧
      (auth .unauthorized 403 "denied" "no access").isRetryable = false ∧
      ((auth .unauthorized 403 "denied" "no access").ofMutation .delete "a").requiresCleanup =
        false ∧
      missingAccessToken.isTransient = true ∧ missingAccessToken.isRetryable = true ∧
      (wrap [(.delete, "a"), (.update, "b")] missingAccessToken).isRetryable = true := by
  obtain ⟨_, _, unretried, _, _, _, mutation, _⟩ :=
    reactions_agree (auth .unauthorized 403 "denied" "no access")
  obtain ⟨_, retried, _, _, wrapped, _, _, _⟩ := reactions_agree missingAccessToken
  exact ⟨rfl, unretried rfl, (mutation _ _).2.1, rfl, retried rfl, wrapped _⟩

end ClusterDiscovery.Failure

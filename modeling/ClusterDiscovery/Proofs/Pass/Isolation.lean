/-
Passes in different namespaces.

A pass reads and writes the objects of its own namespace only, so it leaves the shares of all
others as they are, however it ends. What it does there depends on nothing but the share of
that namespace, versions aside: in two sites that agree on it the pass lists records that
differ in their versions only, makes the same plan, and every update of the plan carries the
version its record has. Two passes in different namespaces therefore do not notice each other,
and it does not matter which of them comes first.
-/

import ClusterDiscovery.Proofs.World.Site

namespace ClusterDiscovery

open Cluster (Distinct unversioned)

variable {τ α β : Type} {around : Surroundings τ} {place : String} {site first second : Site τ}

namespace Mutation

theorem space?_call {mutation : Mutation} (inSpace : mutation.isIn place) :
    (mutation.call place).space? = some place := by
  cases mutation with
  | create cluster => exact congrArg some inSpace
  | update cluster => exact congrArg some inSpace
  | delete name => rfl

theorem unversioned_call (mutation : Mutation) :
    (mutation.call place).unversioned = mutation.unversioned.call place := by
  cases mutation <;> rfl

end Mutation

namespace Site

theorem Agree.perform {mutation other : Mutation} (agree : Agree place first second)
    (alike : mutation.unversioned = other.unversioned) (inSpace : mutation.isIn place)
    (otherIn : other.isIn place) (fits : mutation.Fits (first.store.recordsIn place))
    (otherFits : other.Fits (second.store.recordsIn place)) :
    Agree place (first.perform (mutation.call place)).2
      (second.perform (other.call place)).2 := by
  obtain ⟨sameConditions, sameRecords, sameSecrets⟩ := agree_iff.mp agree
  unfold Agree
  rw [(first.perform_mutation inSpace fits).2, (second.perform_mutation otherIn otherFits).2]
  unfold Share.unversioned share
  simp only
  rw [Mutation.unversioned_revise, Mutation.unversioned_revise, alike, sameRecords,
    sameConditions, sameSecrets]

structure Lists (around : Surroundings τ) (place : String) (site : Site τ) : Prop where
  succeeds : (handle around place (.cluster (.listRecords place)) site).1 =
    Except.ok (site.store.recordsIn place)
  stays : (handle around place (.cluster (.listRecords place)) site).2.store = site.store

def Refuses (around : Surroundings τ) (place : String) (mutation : Mutation) (site : Site τ)
    (failure : Failure) : Prop :=
  (handle around place (.cluster (mutation.call place)) site).1 = Except.error failure

structure Makes (around : Surroundings τ) (place : String) (mutation : Mutation)
    (site : Site τ) : Prop where
  succeeds : ∃ result,
    (handle around place (.cluster (mutation.call place)) site).1 = Except.ok result
  revises : ∃ version,
    (handle around place (.cluster (mutation.call place)) site).2.store.recordsIn place =
      mutation.revise version (site.store.recordsIn place)

private theorem handle_mutation (around : Surroundings τ) (site : Site τ) {mutation : Mutation}
    (inSpace : mutation.isIn place) :
    handle around place (.cluster (mutation.call place)) site =
      (site.withConditions place
          (around.judge (mutation.unversioned.call place) (site.conditions place)).2).answer
        (mutation.call place)
        (around.judge (mutation.unversioned.call place) (site.conditions place)).1 := by
  rw [handle_call (Mutation.space?_call inSpace), Mutation.unversioned_call]

private theorem makes_of_carriedOut {mutation : Mutation} {conditions : τ}
    (inSpace : mutation.isIn place) (fits : mutation.Fits (site.store.recordsIn place))
    (handled : handle around place (.cluster (mutation.call place)) site =
      (site.withConditions place conditions).answer (mutation.call place) .carriedOut) :
    Makes around place mutation site := by
  obtain ⟨⟨result, made⟩, changed⟩ :=
    (site.withConditions place conditions).perform_mutation inSpace fits
  constructor
  · rw [handled]
    exact ⟨result, made⟩
  · rw [handled]
    exact ⟨_, congrArg Share.records changed⟩

/-- Mutations that differ in versions only fail alike in sites that agree in their namespace,
or both are made. The sites agree there afterwards. -/
theorem Agree.mutation (around : Surroundings τ) {mutation other : Mutation}
    (agree : Agree place first second) (alike : mutation.unversioned = other.unversioned)
    (inSpace : mutation.isIn place) (otherIn : other.isIn place)
    (fits : mutation.Fits (first.store.recordsIn place))
    (otherFits : other.Fits (second.store.recordsIn place)) :
    Agree place (handle around place (.cluster (mutation.call place)) first).2
        (handle around place (.cluster (other.call place)) second).2 ∧
      ((∃ failure, Refuses around place mutation first failure ∧
          Refuses around place other second failure) ∨
        Makes around place mutation first ∧ Makes around place other second) := by
  have handled := handle_mutation around first inSpace
  have otherHandled := handle_mutation around second otherIn
  rw [alike, (agree_iff.mp agree).1] at handled
  generalize around.judge (other.unversioned.call place) (second.conditions place) = judged
    at handled otherHandled
  obtain ⟨fate, conditions⟩ := judged
  have agreed := agree.withConditions conditions
  have performed := agreed.perform alike inSpace otherIn fits otherFits
  unfold Refuses
  cases fate with
  | carriedOut =>
      refine ⟨?_, Or.inr ⟨makes_of_carriedOut inSpace fits handled,
        makes_of_carriedOut otherIn otherFits otherHandled⟩⟩
      rw [handled, otherHandled]
      exact performed
  | refused failure =>
      rw [handled, otherHandled]
      exact ⟨agreed, Or.inl ⟨failure, rfl, rfl⟩⟩
  | lost failure =>
      rw [handled, otherHandled]
      exact ⟨performed, Or.inl ⟨failure, rfl, rfl⟩⟩

/-- Sites that agree in a namespace list its records alike, or refuse alike, and the listing
leaves their records alone. -/
theorem Agree.listing (around : Surroundings τ) (agree : Agree place first second) :
    Agree place (handle around place (.cluster (.listRecords place)) first).2
        (handle around place (.cluster (.listRecords place)) second).2 ∧
      ((∃ failure,
          (handle around place (.cluster (.listRecords place)) first).1 = Except.error failure ∧
          (handle around place (.cluster (.listRecords place)) second).1 =
            Except.error failure) ∨
        (Lists around place first ∧ Lists around place second)) := by
  have handled (site : Site τ) :
      handle around place (.cluster (.listRecords place)) site =
        (site.withConditions place
            (around.judge (.listRecords place) (site.conditions place)).2).answer
          (.listRecords place) (around.judge (.listRecords place) (site.conditions place)).1 :=
    handle_call rfl
  have one := handled first
  have other := handled second
  rw [(agree_iff.mp agree).1] at one
  generalize around.judge (.listRecords place) (second.conditions place) = judged at one other
  obtain ⟨fate, conditions⟩ := judged
  have agreed := agree.withConditions conditions
  cases fate with
  | carriedOut =>
      have sameStore := congrArg (fun answered => answered.2.store) one
      have otherStore := congrArg (fun answered => answered.2.store) other
      refine ⟨?_, Or.inr ⟨⟨congrArg Prod.fst one, sameStore⟩,
        ⟨congrArg Prod.fst other, otherStore⟩⟩⟩
      rw [one, other]
      exact agreed
  | refused failure =>
      rw [one, other]
      exact ⟨agreed, Or.inl ⟨failure, rfl, rfl⟩⟩
  | lost failure =>
      rw [one, other]
      exact ⟨agreed, Or.inl ⟨failure, rfl, rfl⟩⟩

/-- Two runs end alike: with the same result, in sites that agree in a namespace. -/
structure EndAlike (place : String) (first second : Except Halt (Except Failure α) × Site τ) :
    Prop where
  result : first.1 = second.1
  agree : Agree place first.2 second.2

variable {handler : Handler (Site τ)}

theorem EndAlike.bind {routine other : Routine α} {next further : α → Routine β}
    (ended : EndAlike place (routine.execute handler first) (other.execute handler second))
    (later : ∀ value reached arrived, Agree place reached arrived →
      EndAlike place ((next value).execute handler reached)
        ((further value).execute handler arrived)) :
    EndAlike place ((routine >>= next).execute handler first)
      ((other >>= further).execute handler second) := by
  obtain ⟨sameResult, agree⟩ := ended
  rw [Routine.execute_bind, Routine.execute_bind]
  rcases executed : routine.execute handler first with ⟨result, reached⟩
  rcases alsoExecuted : other.execute handler second with ⟨outcome, arrived⟩
  rw [executed, alsoExecuted] at sameResult agree
  obtain rfl : result = outcome := sameResult
  rcases result with reason | failure | value
  · exact ⟨rfl, agree⟩
  · exact ⟨rfl, agree⟩
  · exact later value reached arrived agree

theorem EndAlike.attempt {routine other : Routine α}
    (ended : EndAlike place (routine.execute handler first) (other.execute handler second)) :
    EndAlike place ((Routine.attempt routine).execute handler first)
      ((Routine.attempt other).execute handler second) := by
  obtain ⟨sameResult, agree⟩ := ended
  rw [Routine.execute_attempt, Routine.execute_attempt]
  rcases executed : routine.execute handler first with ⟨result, reached⟩
  rcases alsoExecuted : other.execute handler second with ⟨outcome, arrived⟩
  rw [executed, alsoExecuted] at sameResult agree
  obtain rfl : result = outcome := sameResult
  cases result with
  | error reason => exact ⟨rfl, agree⟩
  | ok value => exact ⟨rfl, agree⟩

/-- Mutations that are ready, and the same versions aside, end alike in sites that agree. -/
theorem EndAlike.applyAll {mutations others : List Mutation} (agree : Agree place first second)
    (same : mutations.map Mutation.unversioned = others.map Mutation.unversioned)
    (ready : Plan.Ready place (first.store.recordsIn place) mutations)
    (otherReady : Plan.Ready place (second.store.recordsIn place) others) :
    EndAlike place
      ((Plan.applyAll place mutations).execute (handle around place) first)
      ((Plan.applyAll place others).execute (handle around place) second) := by
  induction mutations generalizing others first second with
  | nil =>
      obtain rfl : others = [] := List.map_eq_nil_iff.mp same.symm
      exact ⟨rfl, agree⟩
  | cons mutation rest ih =>
      obtain ⟨other, further, rfl, alike, sameRest⟩ := List.map_eq_cons_iff.mp same.symm
      have sameMutation : mutation.unversioned = other.unversioned := alike.symm
      have sameName : mutation.name = other.name := by
        rw [← mutation.name_unversioned, sameMutation, other.name_unversioned]
      have sameAction : mutation.action = other.action := by
        rw [← mutation.action_unversioned, sameMutation, other.action_unversioned]
      obtain ⟨agreed, ⟨failure, refused, otherRefused⟩ | ⟨makes, otherMakes⟩⟩ :=
        agree.mutation around sameMutation
          (ready.inSpace mutation List.mem_cons_self)
          (otherReady.inSpace other List.mem_cons_self) (ready.fits mutation List.mem_cons_self)
          (otherReady.fits other List.mem_cons_self)
      · rw [Plan.applyAll_cons, Plan.applyAll_cons,
          Routine.execute_bind_of_error (Mutation.execute_apply_of_error refused),
          Routine.execute_bind_of_error (Mutation.execute_apply_of_error otherRefused),
          sameName, sameAction]
        exact ⟨rfl, agreed⟩
      · obtain ⟨⟨result, succeeded⟩, version, revised⟩ := makes
        obtain ⟨⟨outcome, otherSucceeded⟩, otherVersion, otherRevised⟩ := otherMakes
        rw [Plan.applyAll_cons, Plan.applyAll_cons,
          Routine.execute_bind_of_ok (Mutation.execute_apply_of_ok succeeded),
          Routine.execute_bind_of_ok (Mutation.execute_apply_of_ok otherSucceeded)]
        apply ih agreed sameRest.symm
        · have left := ready.tail version
          rw [← revised] at left
          exact left
        · have left := otherReady.tail otherVersion
          rw [← otherRevised] at left
          exact left

end Site

namespace Pass

open Site (Agree EndAlike Lists handle)

variable {settings : Settings} {config : Config} {canonical : Keyed ClusterSpec}

/-- A plan that is made of the records of a namespace: it is ready for them, and it is the same
for records that differ in their versions only. -/
structure Plans (place : String) (plan : List Cluster → Plan) : Prop where
  ready : ∀ existing, Distinct existing → (∀ record ∈ existing, record.space = place) →
    Plan.Ready place existing (plan existing).mutations
  alike : ∀ existing others, Distinct existing → Distinct others →
    existing.map unversioned = others.map unversioned →
    (plan existing).mutations.map Mutation.unversioned =
      (plan others).mutations.map Mutation.unversioned

theorem plans_changes (canonical : Keyed ClusterSpec)
    (inSpace : config.metadata.space = some place) :
    Plans place (Plan.changes config canonical) where
  ready := fun _ distinct located => Plan.ready_changes distinct inSpace located
  alike := fun _ _ distinct alsoDistinct alike =>
    Plan.mutations_unversioned config canonical distinct alsoDistinct alike

theorem plans_deletion (place : String) : Plans place Plan.deletion where
  ready := fun existing _ _ => Plan.ready_deletion place existing
  alike := by
    intro existing others _distinct _alsoDistinct alike
    have sameNames : existing.map Cluster.name = others.map Cluster.name := by
      have names := congrArg (List.map Cluster.name) alike
      rw [List.map_map, List.map_map] at names
      exact names
    unfold Plan.deletion
    rw [sameNames]

def carryOut (place : String) (plan : List Cluster → Plan) : Routine Unit := do
  let existing ← Routine.call (.listRecords place)
  (plan existing).apply place

theorem converge_eq : converge config place canonical =
    carryOut place (Plan.changes config canonical) >>= fun _ => Routine.perform .nudge := by
  unfold converge carryOut
  rw [bind_assoc]

theorem removeAll_eq : removeAll place = carryOut place Plan.deletion := rfl

theorem distinct_recordsIn (site : Site τ) (place : String) :
    Distinct (site.store.recordsIn place) :=
  Cluster.distinct_within site.distinct place

theorem carryOut_alike {plan : List Cluster → Plan} (plans : Plans place plan)
    (agree : Agree place first second) :
    EndAlike place ((carryOut place plan).execute (handle around place) first)
      ((carryOut place plan).execute (handle around place) second) := by
  have located (site : Site τ) : ∀ record ∈ site.store.recordsIn place, record.space = place :=
    fun _ member => (Store.mem_recordsIn.mp member).2
  have ready (site : Site τ) := plans.ready _ (distinct_recordsIn site place) (located site)
  obtain ⟨agreed, ⟨failure, refused, otherRefused⟩ | ⟨listed, otherListed⟩⟩ :=
    agree.listing around
  · unfold carryOut
    rw [Routine.execute_call_bind_of_error refused,
      Routine.execute_call_bind_of_error otherRefused]
    exact ⟨rfl, agreed⟩
  · unfold carryOut
    rw [Routine.execute_call_bind_of_ok listed.succeeds,
      Routine.execute_call_bind_of_ok otherListed.succeeds]
    refine EndAlike.applyAll agreed ?_ ?_ ?_
    · exact plans.alike _ _ (distinct_recordsIn first place) (distinct_recordsIn second place)
        (Site.agree_iff.mp agree).2.1
    · rw [listed.stays]
      exact ready first
    · rw [otherListed.stays]
      exact ready second

theorem discover_alike (agree : Agree place first second) :
    EndAlike place ((discover settings config place).execute (handle around place) first)
      ((discover settings config place).execute (handle around place) second) := by
  have steps (effect : Effect) (one other : Site τ) (inquiry : effect.isInquiryIn place = true)
      (alike : Agree place one other) := alike.inquiry around inquiry
  obtain ⟨sameResult, agreed⟩ := discover_inquires.program.lockstep steps agree
  exact ⟨sameResult, agreed⟩

/-- In sites that agree on the namespace of a pass the pass ends alike. -/
theorem run_alike (inSpace : config.metadata.space = some place)
    (agree : Agree place first second) :
    EndAlike place ((run settings config place).execute (handle around place) first)
      ((run settings config place).execute (handle around place) second) := by
  unfold run
  refine (discover_alike agree).attempt.bind fun result reached arrived agreed => ?_
  cases result with
  | ok canonical =>
      simp only
      rw [converge_eq]
      refine EndAlike.bind (EndAlike.bind (carryOut_alike (plans_changes canonical inSpace) agreed)
        fun _ _ _ later => ⟨rfl, later⟩) fun _ _ _ later => ⟨rfl, later⟩
  | error failure =>
      simp only [removeAll_eq]
      split
      · exact EndAlike.bind (carryOut_alike (plans_deletion place) agreed)
          fun _ _ _ later => ⟨rfl, later⟩
      · split
        · exact ⟨rfl, agreed⟩
        · exact ⟨rfl, agreed⟩

theorem concerns_of_isInquiryIn {effect : Effect} (inquiry : effect.isInquiryIn place = true) :
    effect.concerns place := by
  cases effect with
  | cluster call =>
      cases call with
      | getSecret space name => exact congrArg some (eq_of_beq inquiry)
      | setAuthMethod space name method => exact congrArg some (eq_of_beq inquiry)
      | _ => cases inquiry
  | trigger space name => cases inquiry
  | _ => exact trivial

theorem concerns_of_mem_trace_apply {plan : Plan}
    (inSpace : ∀ mutation ∈ plan.mutations, mutation.isIn place) {event : Event}
    (member : event ∈ (plan.apply place).trace (handle around place) site) :
    event.effect.concerns place := by
  have obeys : (plan.apply place).Obeys (Discipline.plain (Effect.concerns place))
      (fun _ _ => True) () :=
    Plan.applyAll_stage
      (fun _ mutation planned _ =>
        ⟨Mutation.space?_call (inSpace mutation planned), fun _ => trivial⟩)
      (fun _ _ _ => ⟨trivial, fun _ => trivial⟩) trivial
  exact obeys.program.permits_of_mem_trace member

theorem concerns_of_mem_trace_carryOut {plan : List Cluster → Plan} (plans : Plans place plan)
    {event : Event}
    (member : event ∈ (carryOut place plan).trace (handle around place) site) :
    event.effect.concerns place := by
  unfold carryOut at member
  rcases Routine.mem_trace_bind member with listing | ⟨existing, reached, ended, applying⟩
  · rw [Routine.trace_call, List.mem_singleton] at listing
    rw [listing]
    rfl
  · have itself : Agree place site site := rfl
    obtain ⟨_agreed, ⟨failure, refused, _⟩ | ⟨listed, _⟩⟩ := itself.listing around
    · rw [Routine.execute_call, refused] at ended
      cases ended
    · rw [Routine.execute_call, listed.succeeds] at ended
      cases ended
      have ready := plans.ready _ (distinct_recordsIn site place)
        fun _ present => (Store.mem_recordsIn.mp present).2
      exact concerns_of_mem_trace_apply ready.inSpace applying

theorem concerns_of_mem_trace_run (inSpace : config.metadata.space = some place) {event : Event}
    (member : event ∈ (run settings config place).trace (handle around place) site) :
    event.effect.concerns place := by
  unfold run at member
  rcases Routine.mem_trace_bind member with searching | ⟨result, reached, _searched, acting⟩
  · rw [Routine.trace_attempt] at searching
    exact concerns_of_isInquiryIn (discover_inquires.program.permits_of_mem_trace searching)
  · cases result with
    | ok canonical =>
        simp only at acting
        rw [converge_eq] at acting
        rcases Routine.mem_trace_bind acting with converging | ⟨_, _, _, ending⟩
        · rcases Routine.mem_trace_bind converging with applying | ⟨_, _, _, nudging⟩
          · exact concerns_of_mem_trace_carryOut (plans_changes canonical inSpace) applying
          · have nudges : event = ⟨.nudge, ()⟩ := List.mem_singleton.mp nudging
            rw [nudges]
            trivial
        · cases ending
    | error failure =>
        simp only [removeAll_eq] at acting
        split at acting
        · rcases Routine.mem_trace_bind acting with removing | ⟨_, _, _, ending⟩
          · exact concerns_of_mem_trace_carryOut (plans_deletion place) removing
          · cases ending
        · split at acting <;> cases acting

theorem share_run_of_ne {other : String} (inSpace : config.metadata.space = some place)
    (different : other ≠ place) :
    ((run settings config place).execute (handle around place) site).2.share other =
      site.share other := by
  have still (effect : Effect) (site : Site τ) (concerns : effect.concerns place) :
      (handle around place effect site).2.share other = site.share other :=
    Site.share_handle_of_ne concerns different
  exact Program.run_leaves still fun _ member => concerns_of_mem_trace_run inSpace member

def passIn (around : Surroundings τ) (settings : Settings) (config : Config) (place : String)
    (site : Site τ) : Except Halt (Except Failure (Action × PassOutcome)) × Site τ :=
  (run settings config place).execute (handle around place) site

/-- A pass does nothing that concerns another namespace, leaves the shares of all others as they
are, and ends as the share of its own has it, versions aside. So two passes in different
namespaces end the same in either order, and leave the same behind. -/
theorem passes_apart_commute (around : Surroundings τ) (settings : Settings)
    {config other : Config} {here there : String} (apart : here ≠ there)
    (inHere : config.metadata.space = some here) (inThere : other.metadata.space = some there)
    (site : Site τ) :
    (∀ event ∈ (run settings config here).trace (handle around here) site,
      event.effect.concerns here) ∧
    (∀ place, place ≠ here →
      (passIn around settings config here site).2.share place = site.share place) ∧
    (∀ twin, Agree here site twin →
      EndAlike here (passIn around settings config here site)
        (passIn around settings config here twin)) ∧
    (passIn around settings config here (passIn around settings other there site).2).1 =
      (passIn around settings config here site).1 ∧
    (passIn around settings other there (passIn around settings config here site).2).1 =
      (passIn around settings other there site).1 ∧
    ∀ place, Agree place
      (passIn around settings other there (passIn around settings config here site).2).2
      (passIn around settings config here (passIn around settings other there site).2).2 := by
  have keptThere (site : Site τ) {place : String} (different : place ≠ here) :
      (passIn around settings config here site).2.share place = site.share place :=
    share_run_of_ne inHere different
  have keptHere (site : Site τ) {place : String} (different : place ≠ there) :
      (passIn around settings other there site).2.share place = site.share place :=
    share_run_of_ne inThere different
  -- each pass finds its own share as it was, whether the other one has run or not
  have sameHere : EndAlike here (passIn around settings config here site)
      (passIn around settings config here (passIn around settings other there site).2) :=
    run_alike inHere (congrArg Site.Share.unversioned (keptHere site apart).symm)
  have sameThere : EndAlike there (passIn around settings other there site)
      (passIn around settings other there (passIn around settings config here site).2) :=
    run_alike inThere (congrArg Site.Share.unversioned (keptThere site apart.symm).symm)
  refine ⟨fun _ member => concerns_of_mem_trace_run inHere member,
    fun _ different => keptThere site different, fun _ agree => run_alike inHere agree,
    sameHere.result.symm, sameThere.result.symm, fun place => ?_⟩
  unfold Agree
  by_cases isHere : place = here
  · subst isHere
    rw [keptHere _ apart]
    exact sameHere.agree
  · by_cases isThere : place = there
    · subst isThere
      rw [keptThere _ isHere]
      exact sameThere.agree.symm
    · rw [keptHere _ isThere, keptThere _ isHere, keptThere _ isHere, keptHere _ isThere]

section Sample

private abbrev sampleReply : Http.Reply :=
  .json (.record [("access_token", .string "t"), ("total", .nat 2),
    ("items", .array [Sample.subscription "a", Sample.subscription "b"])])

private abbrev sampleSurroundings : Surroundings Nat where
  judge _ left := if left = 0 then (.refused (.hub .service), 0) else (.carriedOut, left - 1)
  reply _ left := (sampleReply, left)
  clock left := ((Sample.world []).clock, left)

private abbrev configIn (space : String) : Config :=
  { Sample.config with metadata := { Sample.config.metadata with space := some space } }

private abbrev secretIn (space : String) : Secret :=
  { Sample.secret with metadata := { Sample.secret.metadata with space := some space } }

private abbrev sampleSite : Site Nat where
  store := { Store.empty with
    records := [.ownedBy (configIn "north") { Sample.spec "a" with region := "elsewhere" },
      .ownedBy (configIn "south") { Sample.spec "a" with region := "elsewhere" }]
    secrets := [secretIn "north", secretIn "south"] }
  versions := 7
  conditions place := if place = "south" then 3 else 100
  distinct := by decide

/-- The first pass is applied and the second ends midway, in either order. -/
theorem passes_apart_commute_sample :
    (passIn sampleSurroundings .standard (configIn "north") "north"
      (passIn sampleSurroundings .standard (configIn "south") "south" sampleSite).2).1 =
        .ok (.ok (.requeue 1800, .applied)) ∧
    (passIn sampleSurroundings .standard (configIn "south") "south"
      (passIn sampleSurroundings .standard (configIn "north") "north" sampleSite).2).1 =
        .ok (.error (.applyPartial .update "a" (.hub .service))) := by
  have north : (passIn sampleSurroundings .standard (configIn "north") "north" sampleSite).1 =
      .ok (.ok (.requeue 1800, .applied)) := by
    decide +kernel
  have south : (passIn sampleSurroundings .standard (configIn "south") "south" sampleSite).1 =
      .ok (.error (.applyPartial .update "a" (.hub .service))) := by
    decide +kernel
  have apart : "north" ≠ "south" := by decide
  have inNorth : (configIn "north").metadata.space = some "north" := rfl
  have inSouth : (configIn "south").metadata.space = some "south" := rfl
  obtain ⟨_own, _kept, _alike, sameNorth, sameSouth, _sameAfter⟩ :=
    passes_apart_commute sampleSurroundings .standard apart inNorth inSouth sampleSite
  exact ⟨sameNorth.trans north, sameSouth.trans south⟩

end Sample

end Pass

end ClusterDiscovery

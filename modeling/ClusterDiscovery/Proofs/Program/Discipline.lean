/-
Disciplines of programs.

A discipline says which effects a program may perform, given what it has learnt from the
answers so far. A program obeys a discipline if it does so whatever is answered; so what
follows holds under every handler, and also for a program whose effects are interleaved
with those of others.
-/

import ClusterDiscovery.Proofs.Program.Execution

namespace ClusterDiscovery

variable {κ α β σ : Type}

/-- Which effects are allowed, what their answers teach, and when a program may stop short. -/
structure Discipline (κ : Type) where
  permits : κ → Effect → Prop
  learns : κ → (effect : Effect) → effect.Answer → κ
  stops : κ → Prop

namespace Discipline

def learnt (rule : Discipline κ) (known : κ) (events : List Event) : κ :=
  events.foldl (fun known event => rule.learns known event.effect event.answer) known

def plain (permits : Effect → Prop) : Discipline Unit where
  permits _ := permits
  learns _ _ _ := ()
  stops _ := True

def history (stops : List Event → Prop) : Discipline (List Event) where
  permits _ _ := True
  learns events effect answer := events ++ [⟨effect, answer⟩]
  stops := stops

theorem learnt_history (stops : List Event → Prop) (known events : List Event) :
    (history stops).learnt known events = known ++ events := by
  unfold learnt
  induction events generalizing known with
  | nil => exact (List.append_nil _).symm
  | cons event rest ih =>
      rw [List.foldl_cons, ih]
      exact List.append_assoc known [event] rest

end Discipline

namespace Program

variable {rule : Discipline κ}

/-- Whatever is answered, only permitted effects are performed, and the value at the end is
as ensured. -/
def Obeys (rule : Discipline κ) (ensures : κ → α → Prop) : Program α → κ → Prop
  | .done value, known => ensures known value
  | .halt _, known => rule.stops known
  | .perform effect next, known =>
      rule.permits known effect ∧
        ∀ answer, (next answer).Obeys rule ensures (rule.learns known effect answer)

theorem obeys_done {ensures : κ → α → Prop} {value : α} {known : κ} :
    (Program.done value).Obeys rule ensures known ↔ ensures known value := Iff.rfl

theorem obeys_perform {effect : Effect} {ensures : κ → α → Prop}
    {next : effect.Answer → Program α} {known : κ} :
    (Program.perform effect next).Obeys rule ensures known ↔
      rule.permits known effect ∧
        ∀ answer, (next answer).Obeys rule ensures (rule.learns known effect answer) := Iff.rfl

theorem Obeys.mono {ensures promises : κ → α → Prop} {program : Program α} {known : κ}
    (h : program.Obeys rule ensures known)
    (implied : ∀ known value, ensures known value → promises known value) :
    program.Obeys rule promises known := by
  induction program generalizing known with
  | done value => exact implied known value h
  | halt reason => exact h
  | perform effect next ih => exact ⟨h.1, fun answer => ih answer (h.2 answer)⟩

theorem obeys_bind {ensures : κ → β → Prop} {program : Program α} {next : α → Program β}
    {known : κ} :
    (program.bind next).Obeys rule ensures known ↔
      program.Obeys rule (fun known value => (next value).Obeys rule ensures known) known := by
  induction program generalizing known with
  | done value => rfl
  | halt reason => rfl
  | perform effect rest ih =>
      simp only [Program.bind, Obeys]
      exact and_congr_right fun _ => forall_congr' fun answer => ih answer

theorem obeys_effect_bind {e : Effect} {ensures : κ → β → Prop} {next : e.Answer → Program β}
    {known : κ} :
    (Program.effect e >>= next).Obeys rule ensures known ↔
      rule.permits known e ∧
        ∀ answer, (next answer).Obeys rule ensures (rule.learns known e answer) := Iff.rfl

/-- Under any handler the value at the end is as ensured, given what the trace teaches. -/
theorem Obeys.run {ensures : κ → α → Prop} {program : Program α} {known : κ}
    (h : program.Obeys rule ensures known) {handler : Handler σ} {state reached : σ} {value : α}
    (ended : program.run handler state = (.ok value, reached)) :
    ensures (rule.learnt known (program.trace handler state)) value := by
  induction program generalizing known state with
  | done result =>
      cases ended
      exact h
  | halt reason => cases ended
  | perform effect next ih => exact ih _ (h.2 _) ended

theorem Obeys.stops {ensures : κ → α → Prop} {program : Program α} {known : κ}
    (h : program.Obeys rule ensures known) {handler : Handler σ} {state reached : σ}
    {reason : Halt} (ended : program.run handler state = (.error reason, reached)) :
    rule.stops (rule.learnt known (program.trace handler state)) := by
  induction program generalizing known state with
  | done result => cases ended
  | halt reason => exact h
  | perform effect next ih => exact ih _ (h.2 _) ended

theorem Obeys.permits_of_mem_trace {permits : Effect → Prop} {ensures : Unit → α → Prop}
    {program : Program α} {known : Unit}
    (h : program.Obeys (Discipline.plain permits) ensures known) {handler : Handler σ}
    {state : σ} {event : Event} (member : event ∈ program.trace handler state) :
    permits event.effect := by
  induction program generalizing known state with
  | done value => cases member
  | halt reason => cases member
  | perform effect next ih =>
      simp only [trace, List.mem_cons] at member
      rcases member with same | later
      · subst same
        exact h.1
      · exact ih _ (h.2 _) later

theorem Obeys.permit {permits allows : Effect → Prop} {ensures : Unit → α → Prop}
    {program : Program α} {known : Unit}
    (h : program.Obeys (Discipline.plain permits) ensures known)
    (wider : ∀ effect, permits effect → allows effect) :
    program.Obeys (Discipline.plain allows) ensures known := by
  induction program generalizing known with
  | done value => exact h
  | halt reason => exact h
  | perform effect next ih => exact ⟨wider effect h.1, fun answer => ih answer (h.2 answer)⟩

theorem Obeys.preserves {τ : Type} {permits : Effect → Prop} {ensures : Unit → α → Prop}
    {program : Program α} {known : Unit}
    (h : program.Obeys (Discipline.plain permits) ensures known) {handler : Handler σ}
    {view : σ → τ}
    (kept : ∀ effect state, permits effect → view (handler effect state).2 = view state)
    (state : σ) : view (program.run handler state).2 = view state := by
  induction program generalizing known state with
  | done value => rfl
  | halt reason => rfl
  | perform effect next ih =>
      have first := kept effect state h.1
      have later := ih _ (h.2 (handler effect state).1) (handler effect state).2
      exact later.trans first

/-- If what is permitted is answered the same in states that are alike, and leaves them alike,
then so does a program that performs nothing else. -/
theorem Obeys.lockstep {permits : Effect → Prop} {ensures : Unit → α → Prop}
    {program : Program α} {known : Unit}
    (h : program.Obeys (Discipline.plain permits) ensures known) {handler : Handler σ}
    {alike : σ → σ → Prop}
    (steps : ∀ effect first second, permits effect → alike first second →
      (handler effect first).1 = (handler effect second).1 ∧
        alike (handler effect first).2 (handler effect second).2)
    {first second : σ} (initially : alike first second) :
    (program.run handler first).1 = (program.run handler second).1 ∧
      alike (program.run handler first).2 (program.run handler second).2 := by
  induction program generalizing known first second with
  | done value => exact ⟨rfl, initially⟩
  | halt reason => exact ⟨rfl, initially⟩
  | perform effect next ih =>
      obtain ⟨sameAnswer, stillAlike⟩ := steps effect first second h.1 initially
      unfold Program.run
      simp only
      rw [sameAnswer]
      exact ih _ (h.2 _) stillAlike

end Program

namespace Routine

variable {rule : Discipline κ}

/-- A routine obeys a discipline as a program whose value may be a failure. -/
def Obeys (rule : Discipline κ) (ensures : κ → Except Failure α → Prop) (routine : Routine α)
    (known : κ) : Prop :=
  Program.Obeys rule ensures (ExceptT.run routine) known

theorem Obeys.program {ensures : κ → Except Failure α → Prop} {routine : Routine α} {known : κ}
    (h : routine.Obeys rule ensures known) :
    Program.Obeys rule ensures (ExceptT.run routine) known := h

theorem obeys_bind {ensures : κ → Except Failure β → Prop} {routine : Routine α}
    {next : α → Routine β} {known : κ} :
    (routine >>= next).Obeys rule ensures known ↔
      routine.Obeys rule (fun known result =>
        match result with
        | .ok value => (next value).Obeys rule ensures known
        | .error failure => ensures known (.error failure)) known := by
  unfold Obeys
  rw [ExceptT.run_bind]
  change Program.Obeys rule ensures (Program.bind _ _) known ↔ _
  rw [Program.obeys_bind]
  constructor
  · intro h
    refine h.mono fun known result obeyed => ?_
    cases result <;> exact obeyed
  · intro h
    refine h.mono fun known result obeyed => ?_
    cases result <;> exact obeyed

theorem Obeys.mono {ensures promises : κ → Except Failure α → Prop} {routine : Routine α}
    {known : κ} (h : routine.Obeys rule ensures known)
    (implied : ∀ known result, ensures known result → promises known result) :
    routine.Obeys rule promises known :=
  Program.Obeys.mono h implied

theorem Obeys.bind {ensures : κ → Except Failure β → Prop}
    {between : κ → Except Failure α → Prop} {routine : Routine α} {next : α → Routine β}
    {known : κ} (first : routine.Obeys rule between known)
    (second : ∀ known value, between known (.ok value) → (next value).Obeys rule ensures known)
    (failing : ∀ known failure, between known (.error failure) →
      ensures known (.error failure)) :
    (routine >>= next).Obeys rule ensures known := by
  refine obeys_bind.2 (first.mono fun known result reached => ?_)
  cases result with
  | ok value => exact second known value reached
  | error failure => exact failing known failure reached

theorem obeys_pure {ensures : κ → Except Failure α → Prop} {value : α} {known : κ} :
    (pure value : Routine α).Obeys rule ensures known ↔ ensures known (.ok value) := Iff.rfl

theorem obeys_ofExcept {ensures : κ → Except Failure α → Prop} {result : Except Failure α}
    {known : κ} : (ofExcept result).Obeys rule ensures known ↔ ensures known result := Iff.rfl

theorem obeys_call {c : ClusterCall} {ensures : κ → Except Failure c.Result → Prop}
    {known : κ} :
    (call c).Obeys rule ensures known ↔
      rule.permits known (.cluster c) ∧
        ∀ answer, ensures (rule.learns known (.cluster c) answer) answer := Iff.rfl

theorem obeys_perform {e : Effect} {ensures : κ → Except Failure e.Answer → Prop} {known : κ} :
    (perform e).Obeys rule ensures known ↔
      rule.permits known e ∧ ∀ answer, ensures (rule.learns known e answer) (.ok answer) :=
  Iff.rfl

theorem obeys_attempt {ensures : κ → Except Failure (Except Failure α) → Prop}
    {routine : Routine α} {known : κ} :
    (attempt routine).Obeys rule ensures known ↔
      routine.Obeys rule (fun known result => ensures known (.ok result)) known := by
  unfold Obeys attempt
  rw [ExceptT.run_lift]
  change Program.Obeys rule ensures (Program.bind _ _) known ↔ _
  rw [Program.obeys_bind]
  rfl

theorem obeys_orHalt {ensures : κ → Except Failure α → Prop} {reason : Halt}
    {value : Option α} {known : κ} :
    (orHalt reason value).Obeys rule ensures known ↔
      (value = none → rule.stops known) ∧
        ∀ found, value = some found → ensures known (.ok found) := by
  cases value with
  | none =>
      constructor
      · intro h
        refine ⟨fun _ => h, fun found impossible => ?_⟩
        cases impossible
      · intro h
        exact h.1 rfl
  | some found =>
      constructor
      · intro h
        refine ⟨fun impossible => ?_, fun other same => ?_⟩
        · cases impossible
        · cases same
          exact h
      · intro h
        exact h.2 found rfl

section History

variable {stops : List Event → Prop} {ensures : List Event → Except Failure α → Prop}
  {routine : Routine α} {handler : Handler σ} {state reached : σ}

theorem Obeys.of_trace (h : routine.Obeys (.history stops) ensures [])
    {result : Except Failure α}
    (ended : routine.execute handler state = (.ok result, reached)) :
    ensures (routine.trace handler state) result := by
  have ensured := h.program.run ended
  rw [Discipline.learnt_history, List.nil_append] at ensured
  exact ensured

theorem Obeys.stops_of_trace (h : routine.Obeys (.history stops) ensures []) {reason : Halt}
    (ended : routine.execute handler state = (.error reason, reached)) :
    stops (routine.trace handler state) := by
  have stopped := h.program.stops ended
  rw [Discipline.learnt_history, List.nil_append] at stopped
  exact stopped

end History

/- From here on programs and routines are opened by the lemmas above: left to itself the
elaborator would unfold the whole of one to look at its obligations. -/
attribute [irreducible] Obeys Program.Obeys

end Routine

end ClusterDiscovery

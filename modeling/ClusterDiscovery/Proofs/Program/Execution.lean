/-
Executions of routines.

A handler turns a routine into a run, and every run leaves a trace: the effects that were
performed, each with its answer. The runs and traces of a sequence are those of its parts,
one after the other, up to the first part that fails or halts.
-/

import ClusterDiscovery.Effect.Program

namespace ClusterDiscovery

variable {α β σ : Type}

structure Event where
  effect : Effect
  answer : effect.Answer

namespace Event

def failed : Event → Bool
  | ⟨.cluster _, answer⟩ =>
      match answer with
      | .ok _ => false
      | .error _ => true
  | _ => false

theorem exists_error_of_failed {c : ClusterCall} {answer : Except Failure c.Result}
    (h : failed ⟨.cluster c, answer⟩ = true) : ∃ failure, answer = .error failure := by
  cases answer with
  | ok result => cases h
  | error failure => exact ⟨failure, rfl⟩

end Event

def Effect.writesRecord : Effect → Bool
  | .cluster (.createRecord _) => true
  | .cluster (.replaceRecord _) => true
  | .cluster (.deleteRecord _ _) => true
  | _ => false

def Effect.changesRecord : Effect → Bool
  | .cluster (.setManaged _ _) => true
  | effect => effect.writesRecord

theorem Effect.writesRecord_of_unchanging {effect : Effect}
    (unchanging : effect.changesRecord = false) : effect.writesRecord = false := by
  cases effect with
  | cluster call => cases call <;> first | rfl | cases unchanging
  | _ => rfl

def writes (events : List Event) : List Effect :=
  (events.map Event.effect).filter Effect.writesRecord

theorem writes_eq_nil {events : List Event}
    (unchanging : ∀ event ∈ events, event.effect.changesRecord = false) : writes events = [] := by
  unfold writes
  rw [List.filter_eq_nil_iff]
  intro effect member
  obtain ⟨event, performed, rfl⟩ := List.mem_map.mp member
  rw [Effect.writesRecord_of_unchanging (unchanging event performed)]
  exact Bool.false_ne_true

theorem writes_append (first second : List Event) :
    writes (first ++ second) = writes first ++ writes second := by
  unfold writes
  rw [List.map_append, List.filter_append]

/-- Answers depend on no more of a state than a view shows of it, and so does what the view shows
afterwards. -/
def Handler.Reads {ν : Type} (handler : Handler σ) (view : σ → ν) : Prop :=
  ∀ effect here there, view here = view there →
    (handler effect here).1 = (handler effect there).1 ∧
      view (handler effect here).2 = view (handler effect there).2

namespace Program

def trace (handler : Handler σ) : Program α → σ → List Event
  | .done _, _ => []
  | .halt _, _ => []
  | .perform effect next, state =>
      ⟨effect, (handler effect state).1⟩ ::
        (next (handler effect state).1).trace handler (handler effect state).2

theorem trace_bind (handler : Handler σ) (program : Program α) (next : α → Program β)
    (state : σ) :
    (program.bind next).trace handler state =
      program.trace handler state ++
        match program.run handler state with
        | (.ok value, reached) => (next value).trace handler reached
        | (.error _, _) => [] := by
  induction program generalizing state with
  | done value => rfl
  | halt reason => rfl
  | perform effect rest ih =>
      simp only [Program.bind, Program.trace, Program.run, List.cons_append]
      rw [ih]

/-- What no effect of a trace changes stays as it is. -/
theorem run_leaves {ν : Type} {handler : Handler σ} {view : σ → ν} {harmless : Effect → Prop}
    (still : ∀ effect state, harmless effect → view (handler effect state).2 = view state)
    {program : Program α} {state : σ}
    (seen : ∀ event ∈ program.trace handler state, harmless event.effect) :
    view (program.run handler state).2 = view state := by
  induction program generalizing state with
  | done value => rfl
  | halt reason => rfl
  | perform effect next ih =>
      have first := still effect state (seen _ List.mem_cons_self)
      have later := ih _ fun event member => seen event (List.mem_cons_of_mem _ member)
      exact later.trans first

/-- Handlers that carry out alike what is performed under one of them cannot be told apart. -/
theorem run_congr {handler other : Handler σ} {program : Program α} {state : σ}
    (same : ∀ event ∈ program.trace handler state, ∀ state,
      other event.effect state = handler event.effect state) :
    program.run other state = program.run handler state ∧
      program.trace other state = program.trace handler state := by
  induction program generalizing state with
  | done value => exact ⟨rfl, rfl⟩
  | halt reason => exact ⟨rfl, rfl⟩
  | perform effect next ih =>
      have first := same _ List.mem_cons_self state
      obtain ⟨sameRun, sameTrace⟩ := ih (handler effect state).1
        fun event member => same event (List.mem_cons_of_mem _ member)
      unfold Program.run trace
      simp only
      rw [first, sameRun, sameTrace]
      exact ⟨rfl, rfl⟩

/-- From states that look alike a program does the same, ends alike and leaves states that look
alike, if the answers depend on no more than how the states look. -/
theorem run_of_view_eq {ν : Type} {handler : Handler σ} {view : σ → ν} (reads : handler.Reads view)
    (program : Program α) {here there : σ} (same : view here = view there) :
    (program.run handler here).1 = (program.run handler there).1 ∧
      view (program.run handler here).2 = view (program.run handler there).2 ∧
      program.trace handler here = program.trace handler there := by
  induction program generalizing here there with
  | done value => exact ⟨rfl, same, rfl⟩
  | halt reason => exact ⟨rfl, same, rfl⟩
  | perform effect next ih =>
      obtain ⟨sameAnswer, stillSame⟩ := reads effect here there same
      obtain ⟨sameEnd, sameView, sameTrace⟩ := ih (handler effect here).1 stillSame
      unfold Program.run trace
      simp only
      rw [← sameAnswer, sameEnd, sameView, sameTrace]
      exact ⟨rfl, rfl, rfl⟩

end Program

namespace Routine

def execute (routine : Routine α) (handler : Handler σ) (state : σ) :
    Except Halt (Except Failure α) × σ :=
  Program.run handler (ExceptT.run routine) state

def trace (routine : Routine α) (handler : Handler σ) (state : σ) : List Event :=
  Program.trace handler (ExceptT.run routine) state

variable {handler : Handler σ} {state reached : σ}

private theorem run_bind_eq (routine : Routine α) (next : α → Routine β) :
    ExceptT.run (routine >>= next) =
      Program.bind (ExceptT.run routine) fun result =>
        match result with
        | .ok value => ExceptT.run (next value)
        | .error failure => .done (.error failure) := by
  rw [ExceptT.run_bind]
  change Program.bind _ _ = Program.bind _ _
  congr 1
  funext result
  cases result <;> rfl

theorem execute_bind (routine : Routine α) (next : α → Routine β) :
    (routine >>= next).execute handler state =
      match routine.execute handler state with
      | (.ok (.ok value), reached) => (next value).execute handler reached
      | (.ok (.error failure), reached) => (.ok (.error failure), reached)
      | (.error reason, reached) => (.error reason, reached) := by
  unfold execute
  rw [run_bind_eq, Program.run_bind]
  rcases Program.run handler (ExceptT.run routine) state with ⟨ended, reached⟩
  cases ended with
  | error reason => rfl
  | ok result => cases result <;> rfl

theorem trace_bind (routine : Routine α) (next : α → Routine β) :
    (routine >>= next).trace handler state =
      routine.trace handler state ++
        match routine.execute handler state with
        | (.ok (.ok value), reached) => (next value).trace handler reached
        | _ => [] := by
  unfold trace execute
  rw [run_bind_eq, Program.trace_bind]
  rcases Program.run handler (ExceptT.run routine) state with ⟨ended, reached⟩
  cases ended with
  | error reason => rfl
  | ok result => cases result <;> rfl

theorem execute_bind_of_ok {routine : Routine α} {next : α → Routine β} {value : α}
    (h : routine.execute handler state = (.ok (.ok value), reached)) :
    (routine >>= next).execute handler state = (next value).execute handler reached := by
  rw [execute_bind, h]

theorem execute_bind_of_error {routine : Routine α} {next : α → Routine β}
    {failure : Failure}
    (h : routine.execute handler state = (.ok (.error failure), reached)) :
    (routine >>= next).execute handler state = (.ok (.error failure), reached) := by
  rw [execute_bind, h]

theorem mem_trace_bind {routine : Routine α} {next : α → Routine β} {event : Event}
    (member : event ∈ (routine >>= next).trace handler state) :
    event ∈ routine.trace handler state ∨
      ∃ value reached, routine.execute handler state = (.ok (.ok value), reached) ∧
        event ∈ (next value).trace handler reached := by
  rw [trace_bind] at member
  rcases List.mem_append.mp member with early | late
  · exact Or.inl early
  · split at late
    · rename_i value reached ended
      exact Or.inr ⟨value, reached, ended, late⟩
    · cases late

theorem trace_bind_of_ok {routine : Routine α} {next : α → Routine β} {value : α}
    (h : routine.execute handler state = (.ok (.ok value), reached)) :
    (routine >>= next).trace handler state =
      routine.trace handler state ++ (next value).trace handler reached := by
  rw [trace_bind, h]

theorem trace_bind_of_error {routine : Routine α} {next : α → Routine β}
    {failure : Failure}
    (h : routine.execute handler state = (.ok (.error failure), reached)) :
    (routine >>= next).trace handler state = routine.trace handler state := by
  rw [trace_bind, h, List.append_nil]

@[simp] theorem execute_pure (value : α) :
    (pure value : Routine α).execute handler state = (.ok (.ok value), state) := rfl

@[simp] theorem trace_pure (value : α) :
    (pure value : Routine α).trace handler state = [] := rfl

@[simp] theorem execute_ofExcept (result : Except Failure α) :
    (ofExcept result).execute handler state = (.ok result, state) := rfl

@[simp] theorem trace_ofExcept (result : Except Failure α) :
    (ofExcept result).trace handler state = [] := rfl

@[simp] theorem execute_call (c : ClusterCall) :
    (call c).execute handler state =
      (.ok (handler (.cluster c) state).1, (handler (.cluster c) state).2) := rfl

@[simp] theorem trace_call (c : ClusterCall) :
    (call c).trace handler state = [⟨.cluster c, (handler (.cluster c) state).1⟩] := rfl

section Calls

variable {c : ClusterCall} {next : c.Result → Routine β}

theorem execute_call_bind_of_ok {result : c.Result}
    (answered : (handler (.cluster c) state).1 = Except.ok result) :
    (call c >>= next).execute handler state =
      (next result).execute handler (handler (.cluster c) state).2 := by
  refine execute_bind_of_ok ?_
  rw [execute_call]
  exact congrArg (fun answer => (Except.ok answer, _)) answered

theorem trace_call_bind_of_ok {result : c.Result}
    (answered : (handler (.cluster c) state).1 = Except.ok result) :
    (call c >>= next).trace handler state =
      ⟨.cluster c, Except.ok result⟩ ::
        (next result).trace handler (handler (.cluster c) state).2 := by
  have called : (call c).execute handler state =
      (.ok (.ok result), (handler (.cluster c) state).2) := by
    rw [execute_call]
    exact congrArg (fun answer => (Except.ok answer, _)) answered
  rw [trace_bind_of_ok called, trace_call, answered]
  rfl

theorem execute_call_bind_of_error {failure : Failure}
    (answered : (handler (.cluster c) state).1 = Except.error failure) :
    (call c >>= next).execute handler state =
      (.ok (.error failure), (handler (.cluster c) state).2) := by
  refine execute_bind_of_error ?_
  rw [execute_call]
  exact congrArg (fun answer => (Except.ok answer, _)) answered

theorem trace_call_bind_of_error {failure : Failure}
    (answered : (handler (.cluster c) state).1 = Except.error failure) :
    (call c >>= next).trace handler state = [⟨.cluster c, Except.error failure⟩] := by
  have called : (call c).execute handler state =
      (.ok (.error failure), (handler (.cluster c) state).2) := by
    rw [execute_call]
    exact congrArg (fun answer => (Except.ok answer, _)) answered
  rw [trace_bind_of_error called, trace_call, answered]

end Calls

@[simp] theorem execute_perform (e : Effect) :
    (perform e).execute handler state = (.ok (.ok (handler e state).1), (handler e state).2) :=
  rfl

@[simp] theorem trace_perform (e : Effect) :
    (perform e).trace handler state = [⟨e, (handler e state).1⟩] := rfl

theorem execute_attempt (routine : Routine α) :
    (attempt routine).execute handler state =
      match routine.execute handler state with
      | (.ok result, reached) => (.ok (.ok result), reached)
      | (.error reason, reached) => (.error reason, reached) := by
  unfold execute attempt
  rw [ExceptT.run_lift]
  change Program.run handler (Program.bind _ _) state = _
  rw [Program.run_bind]
  rcases Program.run handler (ExceptT.run routine) state with ⟨ended, reached⟩
  cases ended <;> rfl

@[simp] theorem trace_attempt (routine : Routine α) :
    (attempt routine).trace handler state = routine.trace handler state := by
  unfold trace attempt
  rw [ExceptT.run_lift]
  change Program.trace handler (Program.bind _ _) state = _
  rw [Program.trace_bind]
  rcases Program.run handler (ExceptT.run routine) state with ⟨ended, reached⟩
  cases ended <;> exact List.append_nil _

theorem execute_attempt_of_ok {routine : Routine α} {result : Except Failure α}
    (h : routine.execute handler state = (.ok result, reached)) :
    (attempt routine).execute handler state = (.ok (.ok result), reached) := by
  rw [execute_attempt, h]

def yields (routine : Routine α) (handler : Handler σ) (state : σ) (test : α → σ → Bool) :
    Bool :=
  match routine.execute handler state with
  | (.ok (.ok value), reached) => test value reached
  | _ => false

theorem yields_eq_true_iff {routine : Routine α} {test : α → σ → Bool} :
    routine.yields handler state test = true ↔
      ∃ value reached, routine.execute handler state = (.ok (.ok value), reached) ∧
        test value reached = true := by
  unfold yields
  constructor
  · intro holds
    split at holds
    · rename_i value reached ended
      exact ⟨value, reached, ended, holds⟩
    · cases holds
  · rintro ⟨value, reached, ended, holds⟩
    rw [ended]
    exact holds

end Routine

end ClusterDiscovery

/-
Programs that run in step.

Two programs are in step if they perform effects that stand for one another and, as long as
the answers stand for one another too, stay in step and end alike. This compares programs and
not their runs, so it holds under every pair of handlers that answer in step.
-/

import ClusterDiscovery.Proofs.Program.Discipline
import Mathlib.Data.List.Forall2

namespace ClusterDiscovery

variable {α β γ δ σ τ : Type}

/-- Ends that are alike: with values that are related, or for the same reason. -/
inductive EndInStep {ε : Type} (related : α → β → Prop) : Except ε α → Except ε β → Prop where
  | ok {value : α} {other : β} (alike : related value other) :
      EndInStep related (.ok value) (.ok other)
  | error (reason : ε) : EndInStep related (.error reason) (.error reason)

namespace EndInStep

variable {ε : Type}

theorem refl (result : Except ε α) : EndInStep Eq result result := by
  cases result with
  | ok value => exact .ok rfl
  | error reason => exact .error reason

theorem eq {first second : Except ε α} (ended : EndInStep Eq first second) : first = second := by
  cases ended with
  | ok same => rw [same]
  | error reason => rfl

variable {related : α → β → Prop} {linked : γ → δ → Prop} {first : Except ε α}
  {second : Except ε β}

theorem mono {looser : α → β → Prop} (ended : EndInStep related first second)
    (implied : ∀ value other, related value other → looser value other) :
    EndInStep looser first second := by
  cases ended with
  | ok alike => exact .ok (implied _ _ alike)
  | error reason => exact .error reason

theorem map {next : α → γ} {further : β → δ} (ended : EndInStep related first second)
    (later : ∀ value other, related value other → linked (next value) (further other)) :
    EndInStep linked (first.map next) (second.map further) := by
  cases ended with
  | ok alike => exact .ok (later _ _ alike)
  | error reason => exact .error reason

theorem bind {next : α → Except ε γ} {further : β → Except ε δ}
    (ended : EndInStep related first second)
    (later : ∀ value other, related value other → EndInStep linked (next value) (further other)) :
    EndInStep linked (first.bind next) (second.bind further) := by
  cases ended with
  | ok alike => exact later _ _ alike
  | error reason => exact .error reason

end EndInStep

/-- What stands for one another in two runs: effects before they are answered, and afterwards. -/
structure Pairing where
  effects : Effect → Effect → Prop
  events : Event → Event → Prop

/-- An effect stands for itself, and for each of its answers only that answer does. -/
def Pairing.Fixes (pairing : Pairing) (effect : Effect) : Prop :=
  pairing.effects effect effect ∧
    ∀ answer reply, pairing.events ⟨effect, answer⟩ ⟨effect, reply⟩ → answer = reply

namespace Program

variable {pairing : Pairing}

inductive InStep (pairing : Pairing) (related : α → β → Prop) : Program α → Program β → Prop where
  | done {value : α} {other : β} (alike : related value other) :
      InStep pairing related (.done value) (.done other)
  | halt (reason : Halt) : InStep pairing related (.halt reason) (.halt reason)
  | perform {first second : Effect} {next : first.Answer → Program α}
      {further : second.Answer → Program β} (paired : pairing.effects first second)
      (later : ∀ answer reply, pairing.events ⟨first, answer⟩ ⟨second, reply⟩ →
        InStep pairing related (next answer) (further reply)) :
      InStep pairing related (.perform first next) (.perform second further)

variable {related : α → β → Prop} {program : Program α} {other : Program β}

theorem InStep.mono {looser : α → β → Prop} (inStep : program.InStep pairing related other)
    (implied : ∀ value another, related value another → looser value another) :
    program.InStep pairing looser other := by
  induction inStep with
  | done alike => exact .done (implied _ _ alike)
  | halt reason => exact .halt reason
  | perform paired _ ih => exact .perform paired ih

theorem InStep.bind {linked : γ → δ → Prop} {next : α → Program γ} {further : β → Program δ}
    (inStep : program.InStep pairing related other)
    (later : ∀ value another, related value another →
      (next value).InStep pairing linked (further another)) :
    (program.bind next).InStep pairing linked (other.bind further) := by
  induction inStep with
  | done alike => exact later _ _ alike
  | halt reason => exact .halt reason
  | perform paired _ ih => exact .perform paired ih

theorem Obeys.inStep {ensures : Unit → α → Prop} {known : Unit}
    (obeys : program.Obeys (Discipline.plain pairing.Fixes) ensures known) :
    program.InStep pairing Eq program := by
  induction program generalizing known with
  | done value => exact .done rfl
  | halt reason => exact .halt reason
  | perform effect next ih =>
      obtain ⟨⟨itself, only⟩, later⟩ := obeys_perform.mp obeys
      apply InStep.perform itself
      intro answer reply paired
      obtain rfl := only answer reply paired
      exact ih answer (later answer)

end Program

/-- Two handlers answer in step, as long as their states are alike. -/
def Pairing.Answered (pairing : Pairing) (handler : Handler σ) (other : Handler τ)
    (alike : σ → τ → Prop) : Prop :=
  ∀ first second, pairing.effects first second → ∀ here there, alike here there →
    pairing.events ⟨first, (handler first here).1⟩ ⟨second, (other second there).1⟩ ∧
      alike (handler first here).2 (other second there).2

/-- Two runs are in step: in what is done, in how they end, and in the states they leave. -/
structure RunInStep (pairing : Pairing) (related : α → β → Prop) (alike : σ → τ → Prop)
    (events others : List Event) (ended : Except Halt α × σ) (alsoEnded : Except Halt β × τ) :
    Prop where
  events : List.Forall₂ pairing.events events others
  result : EndInStep related ended.1 alsoEnded.1
  reached : alike ended.2 alsoEnded.2

/-- Programs in step run in step. -/
theorem Program.InStep.run {pairing : Pairing} {related : α → β → Prop} {program : Program α}
    {other : Program β} (inStep : program.InStep pairing related other) {handler : Handler σ}
    {another : Handler τ} {alike : σ → τ → Prop}
    (answered : pairing.Answered handler another alike) {here : σ} {there : τ}
    (initially : alike here there) :
    RunInStep pairing related alike (program.trace handler here) (other.trace another there)
      (program.run handler here) (other.run another there) := by
  induction inStep generalizing here there with
  | done same => exact ⟨.nil, .ok same, initially⟩
  | halt reason => exact ⟨.nil, .error reason, initially⟩
  | perform paired _ ih =>
      obtain ⟨event, still⟩ := answered _ _ paired here there initially
      obtain ⟨events, result, reached⟩ := ih _ _ event still
      exact ⟨.cons event events, result, reached⟩

namespace Routine

variable {pairing : Pairing} {related : α → β → Prop}

def InStep (pairing : Pairing) (related : α → β → Prop) (routine : Routine α)
    (other : Routine β) : Prop :=
  Program.InStep pairing (EndInStep related) (ExceptT.run routine) (ExceptT.run other)

variable {routine : Routine α} {other : Routine β}

theorem InStep.bind {linked : γ → δ → Prop} {next : α → Routine γ} {further : β → Routine δ}
    (inStep : routine.InStep pairing related other)
    (later : ∀ value another, related value another →
      (next value).InStep pairing linked (further another)) :
    (routine >>= next).InStep pairing linked (other >>= further) := by
  unfold InStep
  rw [ExceptT.run_bind, ExceptT.run_bind]
  change Program.InStep pairing _ (Program.bind _ _) (Program.bind _ _)
  apply Program.InStep.bind inStep
  intro result another alike
  cases alike with
  | ok values => exact later _ _ values
  | error failure => exact .done (.error failure)

theorem InStep.attempt (inStep : routine.InStep pairing related other) :
    (Routine.attempt routine).InStep pairing (EndInStep related) (Routine.attempt other) := by
  unfold InStep Routine.attempt
  rw [ExceptT.run_lift, ExceptT.run_lift]
  change Program.InStep pairing _ (Program.bind _ _) (Program.bind _ _)
  exact Program.InStep.bind inStep fun _ _ alike => .done (.ok alike)

theorem inStep_ofExcept {result : Except Failure α} {another : Except Failure β}
    (alike : EndInStep related result another) :
    (ofExcept result).InStep pairing related (ofExcept another) :=
  .done alike

theorem inStep_call {c : ClusterCall} (itself : pairing.effects (.cluster c) (.cluster c))
    {linked : c.Result → c.Result → Prop}
    (answers : ∀ answer reply : Except Failure c.Result,
      pairing.events ⟨.cluster c, answer⟩ ⟨.cluster c, reply⟩ → EndInStep linked answer reply) :
    (call c).InStep pairing linked (call c) :=
  .perform itself fun answer reply paired => .done (answers answer reply paired)

theorem inStep_perform {first second : Effect} (paired : pairing.effects first second)
    {linked : first.Answer → second.Answer → Prop}
    (answers : ∀ answer reply, pairing.events ⟨first, answer⟩ ⟨second, reply⟩ →
      linked answer reply) :
    (perform first).InStep pairing linked (perform second) :=
  .perform paired fun answer reply events => .done (.ok (answers answer reply events))

theorem Obeys.inStep {ensures : Unit → Except Failure α → Prop} {known : Unit}
    (obeys : routine.Obeys (Discipline.plain pairing.Fixes) ensures known) :
    routine.InStep pairing Eq routine :=
  obeys.program.inStep.mono fun result _ same => same ▸ EndInStep.refl result

end Routine

end ClusterDiscovery

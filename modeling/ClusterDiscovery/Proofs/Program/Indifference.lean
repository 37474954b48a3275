/-
Programs that do not care how an effect is answered.

A program ignores an effect if it goes on in the same way whatever the effect is answered, and
does nothing afterwards that could show what became of it. So two handlers that differ in how they
carry out that effect make the same of the program: it performs the same effects and ends alike.
-/

import ClusterDiscovery.Proofs.Program.Lockstep

namespace ClusterDiscovery

variable {α β σ : Type}

/-- A discipline of those who perform no effect of a kind. -/
abbrev Discipline.without (barred : Effect → Bool) : Discipline Unit :=
  Discipline.plain fun effect => barred effect = false

/-- Handlers that differ in some effects only. What becomes of these does not show in the answers
to what is not barred. -/
structure Handler.PartsAt (ignored barred : Effect → Bool) (handler other : Handler σ)
    (apart : σ → σ → Prop) : Prop where
  same : ∀ effect state, ignored effect = false → other effect state = handler effect state
  parted : ∀ effect state, ignored effect = true →
    apart (handler effect state).2 (other effect state).2
  unseen : ∀ effect here there, barred effect = false → apart here there →
    (handler effect here).1 = (other effect there).1 ∧
      apart (handler effect here).2 (other effect there).2

/-- The same effect, and unless it is ignored the same answer. -/
structure Event.SameBut (ignored : Effect → Bool) (event other : Event) : Prop where
  effect : event.effect = other.effect
  answer : ignored event.effect = false → event = other

theorem Event.effects_eq {ignored : Effect → Bool} {events others : List Event}
    (same : List.Forall₂ (Event.SameBut ignored) events others) :
    events.map Event.effect = others.map Event.effect := by
  induction same with
  | nil => rfl
  | cons first _ ih => rw [List.map_cons, List.map_cons, first.effect, ih]

namespace Program

variable {ignored barred : Effect → Bool}

/-- The program goes on in the same way whatever an ignored effect is answered, and then performs
nothing that is barred. -/
inductive Ignores (ignored barred : Effect → Bool) : Program α → Prop where
  | done (value : α) : Ignores ignored barred (.done value)
  | halt (reason : Halt) : Ignores ignored barred (.halt reason)
  | perform {effect : Effect} {next : effect.Answer → Program α} (heeded : ignored effect = false)
      (later : ∀ answer, Ignores ignored barred (next answer)) :
      Ignores ignored barred (.perform effect next)
  | ignore {effect : Effect} {rest : Program α} (unheeded : ignored effect = true)
      (clear : rest.Obeys (Discipline.without barred) (fun _ _ => True) ()) :
      Ignores ignored barred (.perform effect fun _ => rest)

variable {program : Program α} {next : α → Program β}

theorem Obeys.ignores_bind {ensures : Unit → α → Prop}
    (heeds : program.Obeys (Discipline.without ignored) ensures ())
    (later : ∀ value, (next value).Ignores ignored barred) :
    (program.bind next).Ignores ignored barred := by
  induction program with
  | done value => exact later value
  | halt reason => exact .halt reason
  | perform effect rest ih =>
      obtain ⟨heeded, heedsLater⟩ := obeys_perform.mp heeds
      exact .perform heeded fun answer => ih answer (heedsLater answer)

theorem Obeys.ignores {ensures : Unit → α → Prop}
    (heeds : program.Obeys (Discipline.without ignored) ensures ()) :
    program.Ignores ignored barred := by
  rw [← program.bind_done]
  exact heeds.ignores_bind fun value => .done value

theorem Ignores.bind (ignores : program.Ignores ignored barred)
    (subset : ∀ effect, barred effect = false → ignored effect = false)
    (clear : ∀ value, (next value).Obeys (Discipline.without barred) (fun _ _ => True) ()) :
    (program.bind next).Ignores ignored barred := by
  induction ignores with
  | done value => exact ((clear value).permit subset).ignores
  | halt reason => exact .halt reason
  | perform heeded _ ih => exact .perform heeded ih
  | ignore unheeded obeys =>
      exact .ignore unheeded (obeys_bind.mpr (obeys.mono fun _ value _ => clear value))

/-- What performs nothing barred performs the same and ends alike, though the states be apart. -/
theorem Obeys.run_apart {handler other : Handler σ} {apart : σ → σ → Prop}
    (parts : handler.PartsAt ignored barred other apart)
    (clear : program.Obeys (Discipline.without barred) (fun _ _ => True) ()) {here there : σ}
    (initially : apart here there) :
    (program.run handler here).1 = (program.run other there).1 ∧
      program.trace handler here = program.trace other there := by
  induction program generalizing here there with
  | done value => exact ⟨rfl, rfl⟩
  | halt reason => exact ⟨rfl, rfl⟩
  | perform effect next ih =>
      obtain ⟨free, clearLater⟩ := obeys_perform.mp clear
      obtain ⟨sameAnswer, still⟩ := parts.unseen effect here there free initially
      obtain ⟨sameEnd, sameTrace⟩ := ih _ (clearLater (handler effect here).1) still
      unfold Program.run trace
      simp only
      rw [← sameAnswer, sameEnd, sameTrace]
      exact ⟨rfl, rfl⟩

/-- A program that ignores what handlers differ in ends alike under both, and performs the same
effects with the same answers, but for those that it ignores. -/
theorem Ignores.run (ignores : program.Ignores ignored barred) {handler other : Handler σ}
    {apart : σ → σ → Prop} (parts : handler.PartsAt ignored barred other apart) (state : σ) :
    (program.run handler state).1 = (program.run other state).1 ∧
      List.Forall₂ (Event.SameBut ignored) (program.trace handler state)
        (program.trace other state) := by
  induction ignores generalizing state with
  | done value => exact ⟨rfl, .nil⟩
  | halt reason => exact ⟨rfl, .nil⟩
  | @perform effect next heeded _ ih =>
      obtain ⟨sameEnd, sameEvents⟩ := ih (handler effect state).1 (handler effect state).2
      unfold Program.run trace
      rw [parts.same effect state heeded]
      exact ⟨sameEnd, .cons ⟨rfl, fun _ => rfl⟩ sameEvents⟩
  | @ignore effect rest unheeded clear =>
      obtain ⟨sameEnd, sameTrace⟩ := clear.run_apart parts (parts.parted effect state unheeded)
      unfold Program.run trace
      refine ⟨sameEnd, .cons ⟨rfl, fun heeded => ?_⟩ ?_⟩
      · rw [unheeded] at heeded
        cases heeded
      · rw [sameTrace]
        exact List.forall₂_same.mpr fun _ _ => ⟨rfl, fun _ => rfl⟩

end Program

namespace Routine

variable {ignored barred : Effect → Bool}

def Ignores (ignored barred : Effect → Bool) (routine : Routine α) : Prop :=
  Program.Ignores ignored barred (ExceptT.run routine)

variable {routine : Routine α} {next : α → Routine β}

theorem Obeys.ignores_bind {ensures : Unit → Except Failure α → Prop}
    (heeds : routine.Obeys (Discipline.without ignored) ensures ())
    (later : ∀ value, (next value).Ignores ignored barred) :
    (routine >>= next).Ignores ignored barred := by
  unfold Ignores
  rw [ExceptT.run_bind]
  change Program.Ignores _ _ (Program.bind _ _)
  refine heeds.program.ignores_bind fun result => ?_
  cases result with
  | ok value => exact later value
  | error failure => exact .done _

theorem Ignores.bind (ignores : routine.Ignores ignored barred)
    (subset : ∀ effect, barred effect = false → ignored effect = false)
    (clear : ∀ value, (next value).Obeys (Discipline.without barred) (fun _ _ => True) ()) :
    (routine >>= next).Ignores ignored barred := by
  unfold Ignores
  rw [ExceptT.run_bind]
  change Program.Ignores _ _ (Program.bind _ _)
  refine Program.Ignores.bind ignores subset fun result => ?_
  cases result with
  | ok value => exact (clear value).program
  | error failure => exact Program.obeys_done.mpr trivial

theorem Ignores.attempt (ignores : routine.Ignores ignored barred)
    (subset : ∀ effect, barred effect = false → ignored effect = false) :
    (Routine.attempt routine).Ignores ignored barred := by
  unfold Ignores Routine.attempt
  rw [ExceptT.run_lift]
  change Program.Ignores _ _ (Program.bind _ _)
  exact Program.Ignores.bind ignores subset fun _ => Program.obeys_done.mpr trivial

end Routine

end ClusterDiscovery

/-
Programs.

A program is a tree: it is done with a value, or it stops for a reason that no answer can
mend, or it performs an effect and goes on with the answer. A handler turns a program
into a function of a state. A routine is a program that may fail.
-/

import ClusterDiscovery.Effect.Basic

namespace ClusterDiscovery

inductive Halt where
  | timeOutOfRange
  | pageLimit
  deriving DecidableEq, Repr

inductive Program (α : Type) : Type where
  | done (value : α)
  | halt (reason : Halt)
  | perform (effect : Effect) (next : effect.Answer → Program α)

namespace Program

variable {α β γ : Type}

def bind : Program α → (α → Program β) → Program β
  | .done value, next => next value
  | .halt reason, _ => .halt reason
  | .perform effect rest, next => .perform effect fun answer => (rest answer).bind next

instance : Monad Program where
  pure := .done
  bind := bind

theorem bind_done (program : Program α) : program.bind .done = program := by
  induction program with
  | done value => rfl
  | halt reason => rfl
  | perform effect next ih => simp only [bind, ih]

theorem bind_assoc (program : Program α) (f : α → Program β) (g : β → Program γ) :
    (program.bind f).bind g = program.bind fun value => (f value).bind g := by
  induction program with
  | done value => rfl
  | halt reason => rfl
  | perform effect next ih => simp only [bind, ih]

instance : LawfulMonad Program :=
  LawfulMonad.mk' Program bind_done (fun _ _ => rfl) bind_assoc

def effect (e : Effect) : Program e.Answer := .perform e .done

end Program

/-- Something that answers effects and keeps a state. -/
abbrev Handler (σ : Type) := (effect : Effect) → σ → effect.Answer × σ

def Program.run {α σ : Type} (handler : Handler σ) : Program α → σ → Except Halt α × σ
  | .done value, state => (.ok value, state)
  | .halt reason, state => (.error reason, state)
  | .perform effect next, state =>
      let answered := handler effect state
      (next answered.1).run handler answered.2

theorem Program.run_bind {α β σ : Type} (handler : Handler σ) (program : Program α)
    (next : α → Program β) (state : σ) :
    (program.bind next).run handler state =
      match program.run handler state with
      | (.ok value, reached) => (next value).run handler reached
      | (.error reason, reached) => (.error reason, reached) := by
  induction program generalizing state with
  | done value => rfl
  | halt reason => rfl
  | perform effect rest ih =>
      simp only [Program.bind, Program.run]
      exact ih _ _

abbrev Routine (α : Type) := ExceptT Failure Program α

namespace Routine

variable {α : Type}

def perform (e : Effect) : Routine e.Answer := ExceptT.lift (Program.effect e)

def call (c : ClusterCall) : Routine c.Result := ExceptT.mk (Program.effect (.cluster c))

def ofExcept (result : Except Failure α) : Routine α := ExceptT.mk (pure result)

def orHalt (reason : Halt) : Option α → Routine α
  | some value => pure value
  | none => ExceptT.mk (.halt reason)

def attempt (routine : Routine α) : Routine (Except Failure α) :=
  ExceptT.lift (ExceptT.run routine)

def measure (measurement : Measurement) : Routine Unit := perform (.measure measurement)

end Routine

end ClusterDiscovery

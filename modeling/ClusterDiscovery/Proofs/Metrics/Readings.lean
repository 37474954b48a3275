/-
What the instruments show.

A counter goes up by one with each measurement, the gauge shows the last one, and the histogram
keeps them all. The calls of the cluster call for measurements: one for each write that succeeds
and one for each successful count of the configurations. If a trace holds the measurements that
its calls call for, and pass durations besides, the instruments agree with the calls.
-/

import ClusterDiscovery.Pass.Basic
import ClusterDiscovery.Proofs.Program.Execution
import Mathlib.Data.List.Basic
import Mathlib.Logic.Function.Basic

namespace ClusterDiscovery

structure Readings where
  configTotal : Option Int
  recordWrites : WriteAction → Nat
  overlayUpdates : Bool → Nat
  passes : List (String × PassOutcome)

namespace Readings

def bump {α : Type} [DecidableEq α] (counter : α → Nat) (label : α) : α → Nat :=
  Function.update counter label (counter label + 1)

theorem bump_apply {α : Type} [DecidableEq α] (counter : α → Nat) (label other : α) :
    bump counter label other = counter other + if label = other then 1 else 0 := by
  unfold bump
  by_cases same : label = other
  · rw [same, Function.update_self, if_pos rfl]
  · rw [Function.update_of_ne (Ne.symm same), if_neg same, Nat.add_zero]

def initial : Readings := ⟨none, fun _ => 0, fun _ => 0, []⟩

def record (readings : Readings) : Measurement → Readings
  | .configTotal count => { readings with configTotal := some count }
  | .passDuration space outcome => { readings with passes := readings.passes ++ [(space, outcome)] }
  | .recordWrite action =>
      { readings with recordWrites := bump readings.recordWrites action }
  | .overlayUpdate managed =>
      { readings with overlayUpdates := bump readings.overlayUpdates managed }

end Readings

def Measurement.total? : Measurement → Option Int
  | .configTotal count => some count
  | _ => none

def Measurement.pass? : Measurement → Option (String × PassOutcome)
  | .passDuration space outcome => some (space, outcome)
  | _ => none

def ClusterCall.due? : (call : ClusterCall) → Except Failure call.Result → Option Measurement
  | .countConfigs, .ok count => some (.configTotal (Pass.gaugeOf count))
  | .createRecord _, .ok _ => some (.recordWrite .create)
  | .replaceRecord _, .ok _ => some (.recordWrite .update)
  | .deleteRecord _ _, .ok _ => some (.recordWrite .delete)
  | .setManaged _ managed, .ok _ => some (.overlayUpdate managed)
  | _, _ => none

def ClusterCall.write? : ClusterCall → Option WriteAction
  | .createRecord _ => some .create
  | .replaceRecord _ => some .update
  | .deleteRecord _ _ => some .delete
  | _ => none

namespace Event

def due? : Event → Option Measurement
  | ⟨.cluster call, answer⟩ => call.due? answer
  | _ => none

def measurement? : Event → Option Measurement
  | ⟨.measure measurement, _⟩ => some measurement
  | _ => none

def wrote (action : WriteAction) : Event → Bool
  | ⟨.cluster call, answer⟩ => call.write? == some action && answer.isOk
  | _ => false

def marked (managed : Bool) : Event → Bool
  | ⟨.cluster (.setManaged _ value), answer⟩ => value == managed && Except.isOk answer
  | _ => false

def counted? : Event → Option Nat
  | ⟨.cluster .countConfigs, answer⟩ => Except.toOption answer
  | _ => none

end Event

def measurements (events : List Event) : List Measurement := events.filterMap Event.measurement?

def Readings.ofEvents (events : List Event) : Readings :=
  (measurements events).foldl Readings.record .initial

theorem measurements_append (first second : List Event) :
    measurements (first ++ second) = measurements first ++ measurements second :=
  List.filterMap_append

namespace Readings

variable {readings : Readings} {taken : List Measurement} {action : WriteAction} {managed : Bool}

theorem recordWrites_foldl : (taken.foldl record readings).recordWrites action =
    readings.recordWrites action + taken.count (.recordWrite action) := by
  induction taken generalizing readings with
  | nil => rfl
  | cons measurement rest ih =>
      rw [List.foldl_cons, ih, List.count_cons]
      cases measurement with
      | recordWrite other =>
          simp only [record, bump_apply, beq_iff_eq, Measurement.recordWrite.injEq]
          omega
      | _ => rfl

theorem overlayUpdates_foldl : (taken.foldl record readings).overlayUpdates managed =
    readings.overlayUpdates managed + taken.count (.overlayUpdate managed) := by
  induction taken generalizing readings with
  | nil => rfl
  | cons measurement rest ih =>
      rw [List.foldl_cons, ih, List.count_cons]
      cases measurement with
      | overlayUpdate other =>
          simp only [record, bump_apply, beq_iff_eq, Measurement.overlayUpdate.injEq]
          omega
      | _ => rfl

theorem passes_foldl : (taken.foldl record readings).passes =
    readings.passes ++ taken.filterMap Measurement.pass? := by
  induction taken generalizing readings with
  | nil => exact (List.append_nil _).symm
  | cons measurement rest ih =>
      rw [List.foldl_cons, ih]
      cases measurement with
      | passDuration space outcome => exact List.append_assoc _ _ _
      | _ => rfl

theorem configTotal_foldl : (taken.foldl record readings).configTotal =
    (taken.filterMap Measurement.total?).getLast?.or readings.configTotal := by
  induction taken generalizing readings with
  | nil => rfl
  | cons measurement rest ih =>
      rw [List.foldl_cons, ih]
      cases measurement with
      | configTotal count =>
          have first : (Measurement.configTotal count :: rest).filterMap Measurement.total? =
              count :: rest.filterMap Measurement.total? := rfl
          rw [first, List.getLast?_cons]
          cases (rest.filterMap Measurement.total?).getLast? <;> rfl
      | _ => rfl

end Readings

namespace Event

variable {event : Event} {action : WriteAction} {managed : Bool} {measurement : Measurement}

theorem due?_eq_recordWrite_iff :
    event.due? = some (.recordWrite action) ↔ event.wrote action = true := by
  obtain ⟨effect, answer⟩ := event
  cases effect with
  | cluster call =>
      cases call <;> cases answer <;>
        simp [due?, wrote, ClusterCall.due?, ClusterCall.write?, Except.isOk, Except.toBool]
  | _ => simp [due?, wrote]

theorem due?_eq_overlayUpdate_iff :
    event.due? = some (.overlayUpdate managed) ↔ event.marked managed = true := by
  obtain ⟨effect, answer⟩ := event
  cases effect with
  | cluster call =>
      cases call <;> cases answer <;>
        simp [due?, marked, ClusterCall.due?, Except.isOk, Except.toBool]
  | _ => simp [due?, marked]

theorem due?_bind_total? (event : Event) :
    event.due?.bind Measurement.total? = event.counted?.map Pass.gaugeOf := by
  obtain ⟨effect, answer⟩ := event
  cases effect with
  | cluster call => cases call <;> cases answer <;> rfl
  | _ => rfl

theorem pass?_of_due? (due : event.due? = some measurement) : measurement.pass? = none := by
  obtain ⟨effect, answer⟩ := event
  cases effect with
  | cluster call => cases call <;> cases answer <;> cases due <;> rfl
  | _ => cases due

end Event

/-- A trace holds the measurements that its calls call for, in their order, and besides them only
the durations of passes. -/
def Booked (events : List Event) : Prop :=
  (measurements events).filter (fun measurement => measurement.pass?.isNone) =
    events.filterMap Event.due?

namespace Booked

variable {events others : List Event}

theorem nil : Booked [] := rfl

theorem append (first : Booked events) (second : Booked others) : Booked (events ++ others) := by
  unfold Booked at first second ⊢
  rw [measurements_append, List.filter_append, List.filterMap_append, first, second]

theorem count_due (booked : Booked events) {measurement : Measurement}
    (counts : measurement.pass? = none) :
    (measurements events).count measurement =
      events.countP fun event => event.due? == some measurement := by
  rw [← List.count_filterMap, ← booked, List.count_filter]
  rw [counts]
  rfl

theorem recordWrites (booked : Booked events) (action : WriteAction) :
    (Readings.ofEvents events).recordWrites action = events.countP (Event.wrote action) := by
  unfold Readings.ofEvents
  rw [Readings.recordWrites_foldl, booked.count_due rfl]
  refine (Nat.zero_add _).trans (List.countP_congr fun event _performed => ?_)
  rw [beq_iff_eq, Event.due?_eq_recordWrite_iff]

theorem overlayUpdates (booked : Booked events) (managed : Bool) :
    (Readings.ofEvents events).overlayUpdates managed = events.countP (Event.marked managed) := by
  unfold Readings.ofEvents
  rw [Readings.overlayUpdates_foldl, booked.count_due rfl]
  refine (Nat.zero_add _).trans (List.countP_congr fun event _performed => ?_)
  rw [beq_iff_eq, Event.due?_eq_overlayUpdate_iff]

/-- The totals that were measured are those that were counted. -/
theorem totals (booked : Booked events) :
    (measurements events).filterMap Measurement.total? =
      (events.filterMap Event.counted?).map Pass.gaugeOf := by
  have apart : (measurements events).filterMap Measurement.total? =
      ((measurements events).filter fun measurement => measurement.pass?.isNone).filterMap
        Measurement.total? := by
    rw [List.filterMap_filter]
    refine List.filterMap_congr fun measurement _taken => ?_
    cases measurement <;> rfl
  rw [apart, booked, List.filterMap_filterMap, List.map_filterMap]
  exact List.filterMap_congr fun event _performed => event.due?_bind_total?

theorem configTotal (booked : Booked events) : (Readings.ofEvents events).configTotal =
    (events.filterMap Event.counted?).getLast?.map Pass.gaugeOf := by
  unfold Readings.ofEvents
  rw [Readings.configTotal_foldl, booked.totals, List.getLast?_map]
  exact Option.or_none

end Booked

theorem Readings.passes_ofEvents (events : List Event) :
    (ofEvents events).passes = (measurements events).filterMap Measurement.pass? := by
  unfold ofEvents
  rw [passes_foldl]
  rfl

/-- Whatever its calls call for is measured in a trace, and nothing else. The configurations are
not counted. -/
structure Metered (events : List Event) : Prop where
  balanced : measurements events = events.filterMap Event.due?
  uncounted : ∀ event ∈ events, event.effect ≠ .cluster .countConfigs

namespace Metered

variable {events others : List Event} {event : Event}

theorem nil : Metered [] where
  balanced := rfl
  uncounted _ absent := by cases absent

theorem append (first : Metered events) (second : Metered others) : Metered (events ++ others) where
  balanced := by
    rw [measurements_append, List.filterMap_append, first.balanced, second.balanced]
  uncounted := List.forall_mem_append.mpr ⟨first.uncounted, second.uncounted⟩

theorem of_idle (idle : ∀ event ∈ events, event.due? = none ∧ event.measurement? = none ∧
    event.effect ≠ .cluster .countConfigs) : Metered events where
  balanced := by
    unfold measurements
    rw [List.filterMap_eq_nil_iff.mpr fun event performed => (idle event performed).2.1,
      List.filterMap_eq_nil_iff.mpr fun event performed => (idle event performed).1]
  uncounted event performed := (idle event performed).2.2

theorem passes (metered : Metered events) :
    (measurements events).filterMap Measurement.pass? = [] := by
  rw [metered.balanced, List.filterMap_filterMap, List.filterMap_eq_nil_iff]
  intro event _performed
  rw [Option.bind_eq_none_iff]
  exact fun measurement due => Event.pass?_of_due? due

theorem booked (metered : Metered events) : Booked events := by
  unfold Booked
  rw [← metered.balanced, List.filter_eq_self]
  intro measurement taken
  rw [metered.balanced] at taken
  obtain ⟨event, _performed, due⟩ := List.mem_filterMap.mp taken
  rw [Event.pass?_of_due? due]
  rfl

theorem totals (metered : Metered events) :
    (measurements events).filterMap Measurement.total? = [] := by
  rw [metered.booked.totals, List.map_eq_nil_iff, List.filterMap_eq_nil_iff]
  intro event performed
  have other := metered.uncounted event performed
  obtain ⟨effect, answer⟩ := event
  cases effect with
  | cluster call => cases call <;> first | rfl | exact absurd rfl other
  | _ => rfl

end Metered

end ClusterDiscovery

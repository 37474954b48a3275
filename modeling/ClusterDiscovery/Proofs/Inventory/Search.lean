/-
The search term and the cutoff.

The term of a listing spells the cutoff as a local time, and a server reads it in universal
time. Read so it is the cutoff itself, to the nanosecond and in any year, so the server keeps
back only what the filter would drop, and the filter drops nothing more for its age.
-/

import ClusterDiscovery.Proofs.Inventory.Canonical
import ClusterDiscovery.Proofs.Time.Timestamp
import Mathlib.Data.List.Basic

namespace ClusterDiscovery

open Time (Instant)

namespace Time

theorem Instant.nano_of_midnight? {day : Int} {t : Instant} (start : midnight? day = some t) :
    t.nano = 0 := by
  unfold midnight? at start
  split at start
  · rw [← Option.some.inj start]
  · cases start

theorem Instant.ofText?_toLocalText {t : Instant} (whole : t.nano = 0) :
    ofText? (t.toLocalText ++ "Z") = some t := by
  have written : (t.toLocalText ++ "Z").toList = Timestamp.write t := by
    unfold toLocalText Timestamp.write
    rw [whole]
    simp [Timestamp.writtenFraction]
  unfold ofText?
  rw [written, Timestamp.read?_write]

end Time

namespace Inventory

theorem nano_of_cutoff? {now t : Instant} {days : Int} (known : cutoff? now days = some t) :
    t.nano = 0 := by
  unfold cutoff? at known
  simp only at known
  split at known
  · exact Instant.nano_of_midnight? known
  · cases known

/-- A search term asks for what was updated at an instant or later: its literal spells the
instant in universal time. -/
def AsksFrom (term : String) (t : Instant) : Prop :=
  ∃ literal, term = "updated_at >= '" ++ literal ++ "'" ∧
    Instant.ofText? (literal ++ "Z") = some t

/-- What a server answers to a listing of its inventory. -/
inductive Serves (inventory : List Subscription) :
    Option String → List Subscription → Prop where
  | whole : Serves inventory none inventory
  | since {term : String} {t : Instant} (asked : AsksFrom term t) :
      Serves inventory (some term) (inventory.filter fun subscription =>
        subscription.updatedAt.any fun updated => decide (t ≤ updated))

theorem asksFrom_iff {text : String} {t : Instant} :
    AsksFrom s!"updated_at >= '{text}'" t ↔ Instant.ofText? (text ++ "Z") = some t := by
  constructor
  · rintro ⟨literal, same, read⟩
    have parted : "updated_at >= '" ++ text ++ "'" = "updated_at >= '" ++ literal ++ "'" := same
    have sameText : text = literal := by
      rw [← String.toList_inj] at parted ⊢
      simpa using parted
    rw [sameText]
    exact read
  · intro read
    exact ⟨text, rfl, read⟩

end Inventory

/-- The subscription was updated at the cutoff or later, if there is one. -/
def Subscription.isRecent (cutoff : Option Instant) (subscription : Subscription) : Bool :=
  match cutoff with
  | none => true
  | some t => subscription.activeSince t

theorem Subscription.admitted_eq (filter : Filter) (cutoff : Option Instant)
    (subscription : Subscription) :
    subscription.admitted filter cutoff =
      (subscription.admitted filter none && subscription.isRecent cutoff) := by
  cases cutoff with
  | none => exact (Bool.and_true _).symm
  | some t => simp [admitted, isRecent]

namespace Inventory

variable {filter : Filter} {cutoff : Option Instant} {now : Instant}
  {inventory answer : List Subscription}

/-- A server keeps back what is older than the cutoff, and nothing if there is none. -/
theorem serves_iff {search : Option String} (known : filter.cutoff? now = some cutoff)
    (asked : filter.searchTerm? now = some search) :
    Serves inventory search answer ↔ answer = inventory.filter (·.isRecent cutoff) := by
  unfold Filter.searchTerm? at asked
  rw [known, Option.map_some] at asked
  have same := Option.some.inj asked
  subst same
  cases cutoff with
  | none =>
      have all : inventory.filter (·.isRecent none) = inventory :=
        List.filter_eq_self.mpr fun _ _ => rfl
      rw [all]
      constructor
      · intro served
        cases served
        rfl
      · rintro rfl
        exact .whole
  | some t =>
      have whole : t.nano = 0 := by
        unfold Filter.cutoff? at known
        split at known
        · obtain ⟨found, start, same⟩ := Option.map_eq_some_iff.mp known
          cases same
          exact nano_of_cutoff? start
        · cases known
      have test : (fun subscription : Subscription => subscription.isRecent (some t)) =
          fun subscription => subscription.updatedAt.any fun updated => decide (t ≤ updated) := by
        funext subscription
        unfold Subscription.isRecent Subscription.activeSince
        cases subscription.updatedAt <;> rfl
      have spelled := Instant.ofText?_toLocalText whole
      rw [test]
      constructor
      · intro served
        cases served with
        | since asked =>
            have read := asksFrom_iff.mp asked
            rw [spelled] at read
            rw [Option.some.inj read]
      · rintro rfl
        exact .since (asksFrom_iff.mpr spelled)

theorem canonicalSet_filter_isRecent (credential : CredentialRef) :
    canonicalSet filter credential cutoff (inventory.filter (·.isRecent cutoff)) =
      canonicalSet filter credential cutoff inventory := by
  unfold canonicalSet
  rw [List.filterMap_filter]
  congr 2
  apply List.filterMap_congr
  intro subscription _member
  cases recent : subscription.isRecent cutoff with
  | true => rfl
  | false =>
      unfold contribution?
      rw [Subscription.admitted_eq, recent, Bool.and_false]
      rfl

/-- A server that evaluates the search term keeps back nothing that the filter would keep,
and the filter drops nothing for its age that the server has let through. -/
theorem search_loses_nothing (inReach : ¬ filter.OutOfReach now) :
    ∃ search, filter.searchTerm? now = some search ∧ ∀ inventory,
      (∃ answer, Serves inventory search answer) ∧
      ∀ answer, Serves inventory search answer →
        (∀ credential, ∃ canonical,
          canonicalSet? filter credential now answer = some canonical ∧
          canonicalSet? filter credential now inventory = some canonical) ∧
        filter.admit? now answer =
          some (answer.filter fun subscription => subscription.admitted filter none) := by
  obtain ⟨cutoff, known⟩ : ∃ cutoff, filter.cutoff? now = some cutoff :=
    Option.ne_none_iff_exists'.mp fun unknown => inReach (Filter.cutoff?_eq_none_iff.mp unknown)
  obtain ⟨search, asked⟩ : ∃ search, filter.searchTerm? now = some search :=
    Option.ne_none_iff_exists'.mp fun unknown =>
      inReach (Filter.searchTerm?_eq_none_iff.mp unknown)
  refine ⟨search, asked, fun inventory => ⟨⟨_, (serves_iff known asked).mpr rfl⟩, ?_⟩⟩
  intro answer served
  obtain rfl := (serves_iff known asked).mp served
  constructor
  · intro credential
    unfold canonicalSet?
    rw [known, Option.map_some, Option.map_some, canonicalSet_filter_isRecent]
    exact ⟨_, rfl, rfl⟩
  · unfold Filter.admit?
    rw [known, Option.map_some, List.filter_filter, List.filter_filter]
    congr 2
    funext subscription
    rw [Subscription.admitted_eq filter cutoff, Bool.and_assoc, Bool.and_self]

/-- A record of the day of the cutoff is sent and kept, one of the day before is neither. -/
theorem search_loses_nothing_sample :
    ¬ Sample.weekly.OutOfReach Sample.noon ∧
      ∃ canonical, canonicalSet? Sample.weekly ⟨"secret", "ns"⟩ Sample.noon
          [Sample.entry "Active" "early" Sample.weekBefore] = some canonical ∧
        canonicalSet? Sample.weekly ⟨"secret", "ns"⟩ Sample.noon
          [Sample.entry "Active" "early" Sample.weekBefore,
            Sample.entry "Active" "late" ⟨0, 0, by decide, by decide⟩] = some canonical := by
  have inReach : ¬ Sample.weekly.OutOfReach Sample.noon := by decide +kernel
  obtain ⟨search, asked, holds⟩ := search_loses_nothing inReach
  have served : Serves [Sample.entry "Active" "early" Sample.weekBefore,
      Sample.entry "Active" "late" ⟨0, 0, by decide, by decide⟩] search
      [Sample.entry "Active" "early" Sample.weekBefore] :=
    (serves_iff Sample.cutoff?_weekly asked).mpr (by decide +kernel)
  exact ⟨inReach, ((holds _).2 _ served).1 ⟨"secret", "ns"⟩⟩

end Inventory

end ClusterDiscovery

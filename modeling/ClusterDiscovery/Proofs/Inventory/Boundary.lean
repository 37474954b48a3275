/-
The boundary of activity.

A cutoff is the first instant of a date, and which date it is can be counted back on the calendar
from the date of now. So an update is recent enough if its date is the date of the cutoff or a
later one, at whatever time of the day. A filter without a bound does not look at updates at all.
-/

import ClusterDiscovery.Proofs.Inventory.Search
import ClusterDiscovery.Proofs.Time.Order

namespace ClusterDiscovery

namespace Time.Instant

theorem midnight?_eq_some_iff {day : Int} {t : Instant} :
    midnight? day = some t ↔ InRange day ∧ t.second = day * secondsPerDay ∧ t.nano = 0 := by
  unfold midnight?
  split
  · rename_i inRange
    constructor
    · intro same
      cases same
      exact ⟨inRange, rfl, rfl⟩
    · rintro ⟨_inRange, second, nano⟩
      cases t
      cases second
      cases nano
      rfl
  · rename_i beyond
    simp [beyond]

/-- The first instant of a date. -/
structure Begins (t : Instant) (date : Date) : Prop where
  date : t.date = date
  start : t.secondOfDay = 0
  whole : t.nano = 0

theorem begins_of_second {t : Instant} {day : Int} (start : t.second = day * secondsPerDay)
    (whole : t.nano = 0) : t.Begins (Date.ofNumber day) := by
  refine ⟨?_, ?_, whole⟩
  · unfold date Instant.day
    rw [start, Int.mul_ediv_cancel _ (by decide)]
  · unfold secondOfDay
    rw [start, Int.mul_emod_left]

theorem Begins.le_iff {t updated : Instant} {date : Date} (begins : t.Begins date) :
    t ≤ updated ↔ date ≤ updated.date := by
  have start := begins.start
  have whole := begins.whole
  rw [← begins.date]
  unfold Instant.date
  rw [Date.ofNumber_le_ofNumber]
  change t.second < updated.second ∨ t.second = updated.second ∧ t.nano ≤ updated.nano ↔ _
  unfold secondOfDay secondsPerDay at start
  unfold day secondsPerDay
  omega

theorem day_le_day {now later : Instant} (ordered : now ≤ later) : now.day ≤ later.day := by
  change now.second < later.second ∨ now.second = later.second ∧ now.nano ≤ later.nano at ordered
  unfold day secondsPerDay
  omega

end Time.Instant

open Time (Instant Date)

namespace Inventory

def cutoffDay (now : Instant) (days : Int) : Int := referenceDay now (max days 0) - max days 0

theorem cutoff?_eq_some_iff {now t : Instant} {days : Int} :
    cutoff? now days = some t ↔ Time.InRange (cutoffDay now days) ∧
      t.second = cutoffDay now days * Time.secondsPerDay ∧ t.nano = 0 := by
  have latest := (referenceDay_bounds now (max days 0)).2
  have inRange : now.day ≤ Time.lastDay := now.inRange.2
  unfold cutoff?
  simp only
  split
  · exact Instant.midnight?_eq_some_iff
  · rename_i tooLong
    have beyond : ¬ Time.InRange (cutoffDay now days) := by
      unfold Time.InRange cutoffDay
      unfold greatestSpan at tooLong
      unfold Time.lastDay at inRange
      unfold Time.firstDay
      omega
    simp [beyond]

theorem begins_of_cutoff? {now t : Instant} {days : Int} (known : cutoff? now days = some t) :
    t.Begins (Date.ofNumber (cutoffDay now days)) := by
  obtain ⟨_inRange, start, whole⟩ := cutoff?_eq_some_iff.mp known
  exact Instant.begins_of_second start whole

theorem cutoff?_le {now later t u : Instant} {days others : Int}
    (known : cutoff? now days = some t) (alsoKnown : cutoff? later others = some u)
    (earlier : cutoffDay now days ≤ cutoffDay later others) : t ≤ u := by
  rw [(begins_of_cutoff? known).le_iff, (begins_of_cutoff? alsoKnown).date,
    Date.ofNumber_le_ofNumber]
  exact earlier

theorem cutoffDay_of_not_isLeap {now : Instant} (plain : now.isLeap = false) (days : Int) :
    cutoffDay now days = now.day - max days 0 := by
  unfold cutoffDay referenceDay
  simp [plain]

theorem cutoffDay_antitone {now : Instant} {days more : Int} (fewer : days ≤ more)
    (counted : now.isLeap = false ∨ 0 < days) : cutoffDay now more ≤ cutoffDay now days := by
  rcases counted with plain | positive
  · rw [cutoffDay_of_not_isLeap plain, cutoffDay_of_not_isLeap plain]
    omega
  · have span : max days 0 = days := by omega
    have moreSpan : max more 0 = more := by omega
    have positiveMore : 0 < more := by omega
    unfold cutoffDay referenceDay
    rw [span, moreSpan]
    simp only [positive, positiveMore]
    omega

/-- Counted in days from a day that has not ended, a cutoff is the first instant of the date so
many days back on the calendar. -/
theorem cutoff?_begins {now : Instant} {days : Int} (plain : now.isLeap = false)
    (inReach : Time.firstDay ≤ now.day - max days 0) :
    ∃ t, cutoff? now days = some t ∧
      t.Begins (Date.previous^[(max days 0).toNat] now.date) ∧ t ≤ now := by
  have inRange : Time.InRange (cutoffDay now days) := by
    have latest : now.day ≤ Time.lastDay := now.inRange.2
    rw [cutoffDay_of_not_isLeap plain]
    exact ⟨inReach, by omega⟩
  obtain ⟨t, start⟩ : ∃ t, Instant.midnight? (cutoffDay now days) = some t :=
    Option.ne_none_iff_exists'.mp fun none => Instant.midnight?_eq_none_iff.mp none inRange
  obtain ⟨_inRange, second, whole⟩ := Instant.midnight?_eq_some_iff.mp start
  have begins : t.Begins (Date.previous^[(max days 0).toNat] now.date) := by
    have counted : cutoffDay now days = now.day - ((max days 0).toNat : Int) := by
      rw [cutoffDay_of_not_isLeap plain]
      omega
    have begins := Instant.begins_of_second second whole
    rw [counted, Date.ofNumber_sub] at begins
    exact begins
  exact ⟨t, cutoff?_eq_some_iff.mpr ⟨inRange, second, whole⟩, begins,
    begins.le_iff.mpr (Date.previous_iterate_le _ _)⟩

end Inventory

structure Subscription.Eligible (filter : Filter) (subscription : Subscription) : Prop where
  status : subscription.status ≠ "Archived" ∧ subscription.status ≠ "Deprovisioned" ∧
    subscription.status ≠ "Reserved"
  identified : subscription.externalId ≠ ""
  version : subscription.admitsVersion filter.versions = true

theorem Subscription.eligible_iff {filter : Filter} {subscription : Subscription} :
    subscription.admitted filter none = true ↔ subscription.Eligible filter := by
  rw [admitted_iff]
  constructor
  · rintro ⟨status, identified, version, _active⟩
    exact ⟨status, identified, admitsVersion_iff.mpr version⟩
  · rintro ⟨status, identified, version⟩
    refine ⟨status, identified, admitsVersion_iff.mp version, ?_⟩
    intro t impossible
    cases impossible

namespace Filter

variable {filter : Filter} {now : Instant}

theorem exists_cutoff? (inReach : ¬ filter.OutOfReach now) :
    ∃ cutoff, filter.cutoff? now = some cutoff :=
  Option.ne_none_iff_exists'.mp fun unknown => inReach (cutoff?_eq_none_iff.mp unknown)

theorem cutoff?_of_bounded (bounded : 0 < filter.lastActive) {cutoff : Option Instant} :
    filter.cutoff? now = some cutoff ↔
      ∃ t, Inventory.cutoff? now filter.lastActive = some t ∧ some t = cutoff := by
  unfold cutoff? boundsActivity
  rw [if_pos (decide_eq_true bounded), Option.map_eq_some_iff]

theorem cutoff?_of_unbounded (unbounded : filter.lastActive = 0) :
    filter.cutoff? now = some none := by
  unfold cutoff? boundsActivity
  rw [unbounded]
  rfl

/-- A cutoff is the first instant of the date so many days before the date of now. It is not
after now, and it moves with now and against the number of days. A bounded filter keeps what was
updated on the date of the cutoff or later, and one without a bound keeps a subscription whenever
it was updated, if at all. -/
theorem boundary_is_inclusive_date :
    (∀ (now : Instant) (days : Int), now.isLeap = false →
      Time.firstDay ≤ now.day - max days 0 →
        ∃ t, Inventory.cutoff? now days = some t ∧
          t.Begins (Date.previous^[(max days 0).toNat] now.date) ∧ t ≤ now) ∧
    (∀ (now later t u : Instant) (days : Int), now.isLeap = false → later.isLeap = false →
      now ≤ later → Inventory.cutoff? now days = some t → Inventory.cutoff? later days = some u →
        t ≤ u) ∧
    (∀ (now t u : Instant) (days more : Int), now.isLeap = false → days ≤ more →
      Inventory.cutoff? now days = some t → Inventory.cutoff? now more = some u → u ≤ t) ∧
    (∀ (filter : Filter) (now : Instant), 0 < filter.lastActive → ¬ filter.OutOfReach now →
      ∃ t, Inventory.cutoff? now filter.lastActive = some t ∧
        ∀ subscriptions, ∃ kept, filter.admit? now subscriptions = some kept ∧
          ∀ subscription ∈ subscriptions, subscription.Eligible filter →
            (subscription ∈ kept ↔
              ∃ updated, subscription.updatedAt = some updated ∧ t.date ≤ updated.date)) ∧
    ∀ (filter : Filter) (now : Instant), filter.lastActive = 0 →
      ∀ (subscriptions : List Subscription) (times : Subscription → Option Instant),
        ∃ kept, filter.admit? now subscriptions = some kept ∧
          filter.admit? now (subscriptions.map fun subscription =>
            { subscription with updatedAt := times subscription }) =
              some (kept.map fun subscription =>
                { subscription with updatedAt := times subscription }) := by
  refine ⟨fun now days plain inReach => Inventory.cutoff?_begins plain inReach, ?_, ?_, ?_, ?_⟩
  · intro now later t u days plain alsoPlain ordered known alsoKnown
    refine Inventory.cutoff?_le known alsoKnown ?_
    have sameOrder := Instant.day_le_day ordered
    rw [Inventory.cutoffDay_of_not_isLeap plain, Inventory.cutoffDay_of_not_isLeap alsoPlain]
    omega
  · intro now t u days more plain fewer known alsoKnown
    exact Inventory.cutoff?_le alsoKnown known
      (Inventory.cutoffDay_antitone fewer (Or.inl plain))
  · intro filter now bounded inReach
    obtain ⟨cutoff, known⟩ := exists_cutoff? inReach
    obtain ⟨t, found, rfl⟩ := (cutoff?_of_bounded bounded).mp known
    have begins := Inventory.begins_of_cutoff? found
    refine ⟨t, found, fun subscriptions => ?_⟩
    unfold admit?
    rw [known, Option.map_some]
    refine ⟨_, rfl, fun subscription member eligible => ?_⟩
    rw [List.mem_filter, and_iff_right member, Subscription.admitted_eq,
      Subscription.eligible_iff.mpr eligible, Bool.true_and]
    change subscription.activeSince t = true ↔ _
    simp only [Subscription.activeSince_iff, begins.le_iff, begins.date]
  · intro filter now unbounded subscriptions times
    unfold admit?
    rw [cutoff?_of_unbounded unbounded, Option.map_some, Option.map_some, List.filter_map]
    exact ⟨_, rfl, rfl⟩

end Filter

namespace Sample

def lastSecondBefore : Instant := ⟨1590710399, 0, by decide, by decide⟩

def untouched : Subscription := { entry "Active" "untouched" noon with updatedAt := none }

end Sample

/-- A week before the fifth of June is the twenty-ninth of May. Its first instant is kept and the
second before it is not, while an unbounded filter keeps what was never updated as well. -/
theorem Filter.boundary_is_inclusive_date_sample :
    Sample.weekBefore.Begins ⟨2020, 5, 29⟩ ∧ Sample.weekBefore ≤ Sample.noon ∧
      (∃ kept, Sample.weekly.admit? Sample.noon [Sample.entry "Active" "first" Sample.weekBefore,
          Sample.entry "Active" "second" Sample.lastSecondBefore] = some kept ∧
        Sample.entry "Active" "first" Sample.weekBefore ∈ kept ∧
        Sample.entry "Active" "second" Sample.lastSecondBefore ∉ kept) ∧
      Filter.unrestricted.admit? Sample.noon [Sample.untouched] = some [Sample.untouched] := by
  obtain ⟨counted, _later, _more, bounded, unbounded⟩ := boundary_is_inclusive_date
  have known : Inventory.cutoff? Sample.noon 7 = some Sample.weekBefore := by decide +kernel
  have unlisted (displayName : String) (updated : Instant) :
      (Sample.entry "Active" displayName updated).Eligible Sample.weekly :=
    ⟨by simp [Sample.entry], by simp [Sample.entry], rfl⟩
  obtain ⟨t, start, begins, past⟩ := counted Sample.noon 7 (by decide) (by decide)
  obtain rfl : t = Sample.weekBefore := Option.some.inj (start.symm.trans known)
  refine ⟨begins, past, ?_, ?_⟩
  · obtain ⟨t, found, keeps⟩ := bounded Sample.weekly Sample.noon (by decide) (by decide +kernel)
    obtain rfl : t = Sample.weekBefore := Option.some.inj (found.symm.trans known)
    obtain ⟨kept, admitted, exactly⟩ := keeps
      [Sample.entry "Active" "first" Sample.weekBefore,
        Sample.entry "Active" "second" Sample.lastSecondBefore]
    refine ⟨kept, admitted, ?_, ?_⟩
    · rw [exactly _ (by simp) (unlisted _ _)]
      exact ⟨_, rfl, Or.inr rfl⟩
    · rw [exactly _ (by simp) (unlisted _ _)]
      rintro ⟨updated, same, recent⟩
      cases same
      rw [Time.Date.le_iff, Time.Date.lt_iff] at recent
      revert recent
      decide +kernel
  · obtain ⟨kept, admitted, mapped⟩ := unbounded Filter.unrestricted Sample.noon rfl
      [Sample.entry "Active" "untouched" Sample.noon] fun _ => none
    have all : Filter.unrestricted.admit? Sample.noon
        [Sample.entry "Active" "untouched" Sample.noon] =
          some [Sample.entry "Active" "untouched" Sample.noon] := by decide +kernel
    rw [all] at admitted
    cases admitted
    exact mapped

end ClusterDiscovery

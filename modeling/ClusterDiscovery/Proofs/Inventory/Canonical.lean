/-
What a canonical set holds.

A subscription becomes a record if it is admissible: its own fields and those of the record
that is derived from it pass every test of the filter. The set has an entry for each cluster
with an admissible subscription, made from the last one of them, so it depends on nothing
else in the inventory.
-/

import ClusterDiscovery.Inventory.Canonical
import ClusterDiscovery.Proofs.Inventory.Cutoff
import ClusterDiscovery.Proofs.Keyed
import Mathlib.Logic.Basic

namespace ClusterDiscovery

open Time (Instant)

/-- An allow-list has nothing against a value: it is empty, or the value is among its entries
but for the case of ASCII letters. -/
def Filter.Allows (entries : List String) (value : String) : Prop :=
  entries = [] ∨
    ∃ entry ∈ entries, entry.toList.map Char.toLower = value.toList.map Char.toLower

namespace Subscription

/-- The newest reported version is an entry, or goes on after the entry with a point. -/
def RunsVersion (subscription : Subscription) (entry : String) : Prop :=
  ∃ report, subscription.telemetry.head? = some report ∧
    (report.version = entry ∨ ∃ rest, report.version = entry ++ "." ++ rest)

/-- A subscription that becomes a record. -/
structure Admissible (filter : Filter) (cutoff : Option Instant) (subscription : Subscription) :
    Prop where
  identified : subscription.externalId ≠ ""
  status : subscription.status ≠ "Archived" ∧ subscription.status ≠ "Deprovisioned" ∧
    subscription.status ≠ "Reserved"
  observed : subscription.telemetry ≠ []
  version : filter.versions = [] ∨ ∃ entry ∈ filter.versions, subscription.RunsVersion entry
  active : ∀ t, cutoff = some t → ∃ updated, subscription.updatedAt = some updated ∧ t ≤ updated
  clusterType : Filter.Allows filter.clusterTypes (clusterType subscription.plan.id)
  provider : Filter.Allows filter.providers subscription.cloudProvider
  region : Filter.Allows filter.regions subscription.region

/-- The last admissible subscription of a cluster in a list. -/
structure LastAdmissible (filter : Filter) (cutoff : Option Instant) (key : String)
    (subscriptions : List Subscription) (subscription : Subscription) : Prop where
  admissible : subscription.Admissible filter cutoff
  identified : subscription.externalId = key
  last : ∃ earlier later, subscriptions = earlier ++ subscription :: later ∧
    ∀ other ∈ later, other.Admissible filter cutoff → other.externalId ≠ key

/-- A specification says what a subscription does, and that nobody manages its cluster. -/
structure Describes (credential : CredentialRef) (subscription : Subscription)
    (spec : ClusterSpec) : Prop where
  name : spec.name = subscription.externalId
  clusterId : spec.clusterId = subscription.externalId
  displayName : spec.displayName =
    subscription.shownName (consoleHost? subscription.consoleUrl)
  clusterType : spec.clusterType = Subscription.clusterType subscription.plan.id
  cloudProvider : spec.cloudProvider = subscription.cloudProvider
  region : spec.region = subscription.region
  status : spec.status = subscription.status
  credential : spec.credential = credential
  unmanaged : spec.isManaged = false

variable {subscription : Subscription} {filter : Filter} {cutoff : Option Instant}
  {credential : CredentialRef} {spec : ClusterSpec}

theorem describes_of_recordSpec? (made : subscription.recordSpec? credential = some spec) :
    subscription.Describes credential spec := by
  unfold recordSpec? at made
  split at made
  · cases made
  · split at made
    · cases made
    · rw [← Option.some.inj made]
      exact ⟨rfl, rfl, rfl, rfl, rfl, rfl, rfl, rfl, rfl⟩

theorem isSome_recordSpec? (observed : subscription.telemetry ≠ [])
    (identified : subscription.externalId ≠ "") (used : subscription.status ≠ "Reserved") :
    ∃ spec, subscription.recordSpec? credential = some spec := by
  unfold recordSpec?
  cases telemetry : subscription.telemetry with
  | nil => exact absurd telemetry observed
  | cons report rest =>
      simp only [identified, used, or_self, if_false]
      exact ⟨_, rfl⟩

theorem observed_of_recordSpec? (made : subscription.recordSpec? credential = some spec) :
    subscription.telemetry ≠ [] := by
  intro unobserved
  unfold recordSpec? at made
  rw [unobserved] at made
  cases made

theorem versionAdmits_iff {version entry : String} :
    versionAdmits version.toList entry.toList = true ↔
      version = entry ∨ ∃ rest, version = entry ++ "." ++ rest := by
  have onward (rest : List Char) : version.toList = entry.toList ++ '.' :: rest ↔
      version = entry ++ "." ++ String.ofList rest := by
    rw [← String.toList_inj]
    simp
  unfold versionAdmits
  rw [Bool.and_eq_true, List.isPrefixOf_iff_prefix]
  constructor
  · rintro ⟨⟨rest, same⟩, ends⟩
    rw [← same, List.drop_left] at ends
    cases rest with
    | nil =>
        rw [List.append_nil] at same
        exact Or.inl (String.toList_inj.mp same.symm)
    | cons c rest =>
        have point : c = '.' := eq_of_beq ends
        subst point
        exact Or.inr ⟨_, (onward rest).mp same.symm⟩
  · rintro (rfl | ⟨rest, same⟩)
    · exact ⟨List.prefix_refl _, by simp⟩
    · have parted := (onward rest.toList).mpr (by rw [String.ofList_toList]; exact same)
      rw [parted]
      exact ⟨List.prefix_append _ _, by simp⟩

theorem admitsVersion_iff {versions : List String} :
    subscription.admitsVersion versions = true ↔
      versions = [] ∨ ∃ entry ∈ versions, subscription.RunsVersion entry := by
  unfold admitsVersion RunsVersion
  rw [Bool.or_eq_true, List.isEmpty_iff]
  refine or_congr_right ?_
  cases subscription.telemetry.head? with
  | none => simp
  | some report => simp [List.any_eq_true, versionAdmits_iff]

theorem activeSince_iff {t : Instant} :
    subscription.activeSince t = true ↔
      ∃ updated, subscription.updatedAt = some updated ∧ t ≤ updated := by
  unfold activeSince
  cases subscription.updatedAt with
  | none => simp
  | some updated => simp

theorem admitted_iff :
    subscription.admitted filter cutoff = true ↔
      (subscription.status ≠ "Archived" ∧ subscription.status ≠ "Deprovisioned" ∧
        subscription.status ≠ "Reserved") ∧ subscription.externalId ≠ "" ∧
      (filter.versions = [] ∨ ∃ entry ∈ filter.versions, subscription.RunsVersion entry) ∧
      ∀ t, cutoff = some t →
        ∃ updated, subscription.updatedAt = some updated ∧ t ≤ updated := by
  unfold admitted
  rw [Bool.and_eq_true, Bool.and_eq_true, Bool.and_eq_true, admitsVersion_iff, and_assoc,
    and_assoc]
  refine and_congr (by simp [excludedStatuses]) (and_congr (by simp) (and_congr_right' ?_))
  cases cutoff with
  | none => simp
  | some t => simp [activeSince_iff]

end Subscription

namespace Filter

theorem listAdmits_iff {entries : List String} {value : String} :
    listAdmits entries value = true ↔ Allows entries value := by
  unfold listAdmits Allows sameLetters
  simp [List.any_eq_true]

end Filter

namespace Inventory

variable {filter : Filter} {credential : CredentialRef} {cutoff : Option Instant}
  {subscription : Subscription} {spec : ClusterSpec} {key : String}

/-- The admissible subscriptions contribute, each with the specification that is derived from
it. -/
theorem contribution?_eq_some_iff :
    contribution? filter credential cutoff subscription = some spec ↔
      subscription.Admissible filter cutoff ∧
        subscription.recordSpec? credential = some spec := by
  unfold contribution?
  rw [Option.ite_none_right_eq_some, Option.filter_eq_some_iff]
  constructor
  · rintro ⟨admitted, made, listed⟩
    obtain ⟨status, identified, version, active⟩ := Subscription.admitted_iff.mp admitted
    have describes := Subscription.describes_of_recordSpec? made
    unfold Filter.admitsSpec at listed
    rw [Bool.and_eq_true, Bool.and_eq_true, Filter.listAdmits_iff, Filter.listAdmits_iff,
      Filter.listAdmits_iff, describes.clusterType, describes.cloudProvider,
      describes.region] at listed
    exact ⟨⟨identified, status, Subscription.observed_of_recordSpec? made, version, active,
      listed.1.1, listed.1.2, listed.2⟩, made⟩
  · rintro ⟨admissible, made⟩
    have describes := Subscription.describes_of_recordSpec? made
    refine ⟨Subscription.admitted_iff.mpr ⟨admissible.status, admissible.identified,
      admissible.version, admissible.active⟩, made, ?_⟩
    unfold Filter.admitsSpec
    rw [Bool.and_eq_true, Bool.and_eq_true, Filter.listAdmits_iff, Filter.listAdmits_iff,
      Filter.listAdmits_iff, describes.clusterType, describes.cloudProvider, describes.region]
    exact ⟨⟨admissible.clusterType, admissible.provider⟩, admissible.region⟩

theorem contribution?_filter_eq_some_iff :
    (contribution? filter credential cutoff subscription).filter (·.name == key) = some spec ↔
      (subscription.Admissible filter cutoff ∧ subscription.externalId = key) ∧
        subscription.recordSpec? credential = some spec := by
  rw [Option.filter_eq_some_iff, contribution?_eq_some_iff, beq_iff_eq, and_assoc, and_assoc]
  refine and_congr_right fun _ => ?_
  rw [and_comm]
  refine and_congr_left fun made => ?_
  rw [(Subscription.describes_of_recordSpec? made).name]

theorem contribution?_filter_eq_none_iff :
    (contribution? filter credential cutoff subscription).filter (·.name == key) = none ↔
      (subscription.Admissible filter cutoff → subscription.externalId ≠ key) := by
  rw [Option.eq_none_iff_forall_ne_some]
  constructor
  · intro none admissible own
    obtain ⟨spec, made⟩ : ∃ spec, subscription.recordSpec? credential = some spec :=
      Subscription.isSome_recordSpec? admissible.observed admissible.identified
        admissible.status.2.2
    exact none spec (contribution?_filter_eq_some_iff.mpr ⟨⟨admissible, own⟩, made⟩)
  · intro others spec found
    obtain ⟨⟨admissible, own⟩, _made⟩ := contribution?_filter_eq_some_iff.mp found
    exact others admissible own

variable {subscriptions : List Subscription}

private theorem findSome?_filterMap {α β γ : Type} (f : α → Option β) (g : β → Option γ)
    (items : List α) :
    (items.filterMap f).findSome? g = items.findSome? fun item => (f item).bind g := by
  rw [← List.head?_filterMap, List.filterMap_filterMap, List.head?_filterMap]

theorem get?_canonicalSet (key : String) :
    (canonicalSet filter credential cutoff subscriptions).get? key =
      subscriptions.reverse.findSome? fun subscription =>
        (contribution? filter credential cutoff subscription).filter (·.name == key) := by
  -- under a key the last contribution stays, so it is the first one from the end
  unfold canonicalSet
  rw [Keyed.get?_ofList, ← List.map_reverse, ← List.filterMap_reverse, List.lookup_eq_findSome?,
    List.findSome?_map, findSome?_filterMap]
  congr 1
  funext subscription
  cases contribution? filter credential cutoff subscription with
  | none => rfl
  | some spec =>
      rw [Option.bind_some, Option.filter_some, Function.comp_apply, Bool.beq_comm]

theorem get?_canonicalSet_eq_some_iff :
    (canonicalSet filter credential cutoff subscriptions).get? key = some spec ↔
      ∃ subscription,
        Subscription.LastAdmissible filter cutoff key subscriptions subscription ∧
          subscription.recordSpec? credential = some spec := by
  rw [get?_canonicalSet, List.findSome?_eq_some_iff]
  constructor
  · rintro ⟨later, subscription, earlier, parted, found, none⟩
    obtain ⟨⟨admissible, own⟩, made⟩ := contribution?_filter_eq_some_iff.mp found
    refine ⟨subscription, ⟨admissible, own, earlier.reverse, later.reverse, ?_, ?_⟩, made⟩
    · rw [← List.reverse_reverse subscriptions, parted]
      simp
    · intro other member
      exact contribution?_filter_eq_none_iff.mp (none other (List.mem_reverse.mp member))
  · rintro ⟨subscription, ⟨admissible, own, earlier, later, parted, others⟩, made⟩
    refine ⟨later.reverse, subscription, earlier.reverse, ?_,
      contribution?_filter_eq_some_iff.mpr ⟨⟨admissible, own⟩, made⟩, ?_⟩
    · rw [parted]
      simp
    · intro other member
      exact contribution?_filter_eq_none_iff.mpr (others other (List.mem_reverse.mp member))

theorem mem_keys_canonicalSet :
    key ∈ (canonicalSet filter credential cutoff subscriptions).keys ↔
      ∃ subscription ∈ subscriptions,
        subscription.Admissible filter cutoff ∧ subscription.externalId = key := by
  rw [← not_iff_not, ← Keyed.get?_eq_none_iff, get?_canonicalSet, List.findSome?_eq_none_iff]
  simp only [List.mem_reverse, contribution?_filter_eq_none_iff, not_exists, not_and]

/-- A later part of an inventory overrides an earlier one. -/
theorem canonicalSet_append (earlier later : List Subscription) :
    canonicalSet filter credential cutoff (earlier ++ later) =
      (canonicalSet filter credential cutoff earlier).insertAll
        (canonicalSet filter credential cutoff later).entries := by
  refine Keyed.ext_get? fun key => ?_
  rw [Keyed.get?_insertAll, Keyed.lookup_reverse_entries, get?_canonicalSet, get?_canonicalSet,
    get?_canonicalSet, List.reverse_append, List.findSome?_append]

/-- No two admissible subscriptions of a list have the same cluster. -/
def Unambiguous (filter : Filter) (cutoff : Option Instant) (subscriptions : List Subscription) :
    Prop :=
  subscriptions.Pairwise fun one other =>
    one.Admissible filter cutoff → other.Admissible filter cutoff →
      one.externalId ≠ other.externalId

theorem Unambiguous.perm {others : List Subscription}
    (unambiguous : Unambiguous filter cutoff subscriptions)
    (rearranged : subscriptions.Perm others) : Unambiguous filter cutoff others := by
  refine List.Perm.pairwise rearranged unambiguous ?_
  intro one other different isOther isOne same
  exact different isOne isOther same.symm

theorem Unambiguous.lastAdmissible_iff (unambiguous : Unambiguous filter cutoff subscriptions) :
    Subscription.LastAdmissible filter cutoff key subscriptions subscription ↔
      subscription ∈ subscriptions ∧ subscription.Admissible filter cutoff ∧
        subscription.externalId = key := by
  constructor
  · rintro ⟨admissible, own, earlier, later, rfl, _others⟩
    exact ⟨List.mem_append_right _ List.mem_cons_self, admissible, own⟩
  · rintro ⟨member, admissible, own⟩
    obtain ⟨earlier, later, rfl⟩ := List.append_of_mem member
    refine ⟨admissible, own, earlier, later, rfl, ?_⟩
    intro other isLater isAdmissible same
    have apart := (List.pairwise_cons.mp (List.pairwise_append.mp unambiguous).2.1).1
    exact apart other isLater admissible isAdmissible (own.trans same.symm)

/-- The order of an inventory does not matter where every cluster has one subscription. -/
theorem canonicalSet_perm {others : List Subscription}
    (unambiguous : Unambiguous filter cutoff subscriptions)
    (rearranged : subscriptions.Perm others) :
    canonicalSet filter credential cutoff subscriptions =
      canonicalSet filter credential cutoff others := by
  refine Keyed.ext_get? fun key => Option.ext fun spec => ?_
  rw [get?_canonicalSet_eq_some_iff, get?_canonicalSet_eq_some_iff]
  simp only [unambiguous.lastAdmissible_iff, (unambiguous.perm rearranged).lastAdmissible_iff,
    rearranged.mem_iff]

/-- A canonical set has the clusters of the admissible subscriptions for its keys, and under
each key the specification that the last of them gives. A later part of the inventory
overrides an earlier one, and the order does not matter where no cluster is repeated. -/
theorem canonicalSet_keeps_last_admissible {now : Instant} (inReach : ¬ filter.OutOfReach now)
    (credential : CredentialRef) :
    ∃ cutoff, filter.cutoff? now = some cutoff ∧
      ∀ subscriptions, ∃ canonical,
        canonicalSet? filter credential now subscriptions = some canonical ∧
        (∀ key, key ∈ canonical.keys ↔ ∃ subscription ∈ subscriptions,
          subscription.Admissible filter cutoff ∧ subscription.externalId = key) ∧
        (∀ key spec, canonical.get? key = some spec ↔ ∃ subscription,
          Subscription.LastAdmissible filter cutoff key subscriptions subscription ∧
            subscription.recordSpec? credential = some spec) ∧
        (∀ key spec, canonical.get? key = some spec → spec.name = key) ∧
        (∀ later overriding, canonicalSet? filter credential now later = some overriding →
          canonicalSet? filter credential now (subscriptions ++ later) =
            some (canonical.insertAll overriding.entries)) ∧
        (Unambiguous filter cutoff subscriptions → ∀ others, subscriptions.Perm others →
          canonicalSet? filter credential now others = some canonical) := by
  obtain ⟨cutoff, known⟩ : ∃ cutoff, filter.cutoff? now = some cutoff :=
    Option.ne_none_iff_exists'.mp fun unknown => inReach (Filter.cutoff?_eq_none_iff.mp unknown)
  have collect (subscriptions : List Subscription) :
      canonicalSet? filter credential now subscriptions =
        some (canonicalSet filter credential cutoff subscriptions) := by
    unfold canonicalSet?
    rw [known, Option.map_some]
  refine ⟨cutoff, known, fun subscriptions => ⟨_, collect subscriptions,
    fun key => mem_keys_canonicalSet, fun key spec => get?_canonicalSet_eq_some_iff, ?_, ?_, ?_⟩⟩
  · intro key spec found
    obtain ⟨subscription, last, made⟩ := get?_canonicalSet_eq_some_iff.mp found
    rw [(Subscription.describes_of_recordSpec? made).name]
    exact last.identified
  · intro later overriding collected
    rw [collect later] at collected
    rw [collect, canonicalSet_append, Option.some.inj collected]
  · intro unambiguous others rearranged
    rw [collect others, canonicalSet_perm unambiguous rearranged]

end Inventory

/- An inventory to try a filter on: one cluster under several names, around a cutoff that lies
a week back. -/
namespace Sample

def weekly : Filter := { Filter.unrestricted with lastActive := 7 }

def noon : Instant := ⟨1591358400, 0, by decide, by decide⟩

def weekBefore : Instant := ⟨1590710400, 0, by decide, by decide⟩

def entry (status displayName : String) (updated : Instant) : Subscription where
  id := ""
  externalId := "b"
  clusterId := ""
  displayName := displayName
  consoleUrl := ""
  plan := .empty
  telemetry := [⟨"4.9.1"⟩]
  cloudProvider := ""
  region := ""
  status := status
  createdAt := none
  updatedAt := some updated
  lastTelemetryAt := none
  managed := false
  supportLevel := ""

theorem cutoff?_weekly : weekly.cutoff? noon = some (some weekBefore) := by decide +kernel

end Sample

namespace Inventory

/-- Of three subscriptions of a cluster the second counts, for the last one is archived. -/
theorem canonicalSet_keeps_last_admissible_sample :
    ¬ Sample.weekly.OutOfReach Sample.noon ∧
      ∃ canonical spec, canonicalSet? Sample.weekly ⟨"secret", "ns"⟩ Sample.noon
          [Sample.entry "Active" "first" Sample.noon, Sample.entry "Stale" "second" Sample.noon,
            Sample.entry "Archived" "third" Sample.noon] = some canonical ∧
        canonical.get? "b" = some spec ∧ spec.displayName = "second" := by
  have inReach : ¬ Sample.weekly.OutOfReach Sample.noon := by decide +kernel
  obtain ⟨cutoff, known, holds⟩ := canonicalSet_keeps_last_admissible inReach ⟨"secret", "ns"⟩
  obtain ⟨canonical, collected, _keys, found, _rest⟩ := holds
    [Sample.entry "Active" "first" Sample.noon, Sample.entry "Stale" "second" Sample.noon,
      Sample.entry "Archived" "third" Sample.noon]
  obtain rfl : cutoff = some Sample.weekBefore :=
    Option.some.inj (known.symm.trans Sample.cutoff?_weekly)
  have admissible : (Sample.entry "Stale" "second" Sample.noon).Admissible Sample.weekly
      (some Sample.weekBefore) := by
    refine ⟨by decide, by decide, by decide, Or.inl rfl, ?_, Or.inl rfl, Or.inl rfl, Or.inl rfl⟩
    intro t same
    cases same
    exact ⟨Sample.noon, rfl, by decide⟩
  refine ⟨inReach, canonical, _, collected, (found "b" _).mpr
    ⟨_, ⟨admissible, rfl, [_], [_], rfl, ?_⟩, rfl⟩, rfl⟩
  intro other member isAdmissible
  rw [List.mem_singleton.mp member] at isAdmissible
  exact absurd rfl isAdmissible.status.1

end Inventory

end ClusterDiscovery

/-
Looser filters.

An empty list and a bound of zero restrict nothing, so a list is looser than another one if it is
empty, or if the other one is not and all its entries are found here as well. A subscription that
a filter admits is admitted by every looser one. In a canonical set it may give way to another
subscription of its cluster, but the cluster stays. The case of letters in allow-lists makes no
difference to anything a pass does.
-/

import ClusterDiscovery.Pass.Basic
import ClusterDiscovery.Proofs.Inventory.Boundary

namespace ClusterDiscovery

open Time (Instant)

namespace Filter

/-- A list restricts nothing, or has all the entries of a list that restricts something. -/
def Widens (same : String → String → Bool) (entries wider : List String) : Prop :=
  wider = [] ∨ entries ≠ [] ∧ ∀ entry ∈ entries, ∃ other ∈ wider, same entry other = true

/-- Each dimension of a filter is as loose as that of another one or looser. -/
structure Loosens (filter looser : Filter) : Prop where
  lastActive : looser.lastActive = 0 ∨
    0 < filter.lastActive ∧ filter.lastActive ≤ looser.lastActive
  versions : Widens (· == ·) filter.versions looser.versions
  clusterTypes : Widens sameLetters filter.clusterTypes looser.clusterTypes
  providers : Widens sameLetters filter.providers looser.providers
  regions : Widens sameLetters filter.regions looser.regions

structure SameButCase (filter other : Filter) : Prop where
  lastActive : other.lastActive = filter.lastActive
  versions : other.versions = filter.versions
  clusterTypes : List.Forall₂ (sameLetters · ·) filter.clusterTypes other.clusterTypes
  providers : List.Forall₂ (sameLetters · ·) filter.providers other.providers
  regions : List.Forall₂ (sameLetters · ·) filter.regions other.regions

theorem sameLetters_iff {first second : String} : sameLetters first second = true ↔
    first.toList.map Char.toLower = second.toList.map Char.toLower := by
  unfold sameLetters
  exact beq_iff_eq

variable {filter looser other : Filter} {now : Instant}

theorem Allows.widen {entries wider : List String} {value : String}
    (widens : Widens sameLetters entries wider) (allows : Allows entries value) :
    Allows wider value := by
  rcases widens with everything | ⟨restricted, found⟩
  · exact Or.inl everything
  · rcases allows with unrestricted | ⟨entry, listed, same⟩
    · exact absurd unrestricted restricted
    · obtain ⟨other, alsoListed, alike⟩ := found entry listed
      exact Or.inr ⟨other, alsoListed, (sameLetters_iff.mp alike).symm.trans same⟩

theorem Loosens.cutoff?_le (loosens : filter.Loosens looser) {cutoff : Option Instant} {u : Instant}
    (known : filter.cutoff? now = some cutoff) (alsoKnown : looser.cutoff? now = some (some u)) :
    ∃ t, cutoff = some t ∧ u ≤ t := by
  rcases loosens.lastActive with unbounded | ⟨bounded, longer⟩
  · rw [cutoff?_of_unbounded unbounded] at alsoKnown
    cases alsoKnown
  · have alsoBounded : 0 < looser.lastActive := Int.lt_of_lt_of_le bounded longer
    obtain ⟨t, found, same⟩ := (cutoff?_of_bounded bounded).mp known
    obtain ⟨_, alsoFound, ⟨⟩⟩ := (cutoff?_of_bounded alsoBounded).mp alsoKnown
    exact ⟨t, same.symm, Inventory.cutoff?_le alsoFound found
      (Inventory.cutoffDay_antitone longer (Or.inr bounded))⟩

theorem listAdmits_congr {entries others : List String}
    (same : List.Forall₂ (sameLetters · ·) entries others) (value : String) :
    listAdmits others value = listAdmits entries value := by
  have any : (others.any fun entry => sameLetters entry value) =
      entries.any fun entry => sameLetters entry value := by
    induction same with
    | nil => rfl
    | cons alike _rest ih =>
        have agree := sameLetters_iff.mp alike
        rw [List.any_cons, List.any_cons, ih]
        unfold sameLetters
        rw [agree]
  unfold listAdmits
  rw [any]
  cases same <;> rfl

end Filter

namespace Subscription

variable {filter looser : Filter} {cutoff other : Option Instant} {subscription : Subscription}

theorem Admissible.loosen (admissible : subscription.Admissible filter cutoff)
    (loosens : filter.Loosens looser)
    (earlier : ∀ u, other = some u → ∃ t, cutoff = some t ∧ u ≤ t) :
    subscription.Admissible looser other where
  identified := admissible.identified
  status := admissible.status
  observed := admissible.observed
  version := by
    rcases loosens.versions with unrestricted | ⟨restricted, found⟩
    · exact Or.inl unrestricted
    · rcases admissible.version with all | ⟨entry, listed, runs⟩
      · exact absurd all restricted
      · obtain ⟨same, alsoListed, alike⟩ := found entry listed
        rw [eq_of_beq alike] at runs
        exact Or.inr ⟨same, alsoListed, runs⟩
  active := by
    intro u bounded
    obtain ⟨t, same, before⟩ := earlier u bounded
    obtain ⟨updated, dated, recent⟩ := admissible.active t same
    exact ⟨updated, dated, Instant.le_trans before recent⟩
  clusterType := admissible.clusterType.widen loosens.clusterTypes
  provider := admissible.provider.widen loosens.providers
  region := admissible.region.widen loosens.regions

end Subscription

namespace Inventory

variable {filter looser : Filter} {cutoff other : Option Instant} {credential : CredentialRef}
  {subscriptions : List Subscription} {key : String}

theorem mem_keys_loosen (loosens : filter.Loosens looser)
    (earlier : ∀ u, other = some u → ∃ t, cutoff = some t ∧ u ≤ t)
    (present : key ∈ (canonicalSet filter credential cutoff subscriptions).keys) :
    key ∈ (canonicalSet looser credential other subscriptions).keys := by
  obtain ⟨subscription, member, admissible, own⟩ := mem_keys_canonicalSet.mp present
  exact mem_keys_canonicalSet.mpr
    ⟨subscription, member, admissible.loosen loosens earlier, own⟩

theorem unambiguous_of_nodup (distinct : (subscriptions.map (·.externalId)).Nodup) :
    Unambiguous filter cutoff subscriptions := by
  refine List.Pairwise.imp ?_ (List.pairwise_map.mp distinct)
  intro first second different _admissible _alsoAdmissible
  exact different

/-- Where no cluster is repeated, no other subscription can take the place of one that was
admitted before. -/
theorem get?_loosen (loosens : filter.Loosens looser)
    (earlier : ∀ u, other = some u → ∃ t, cutoff = some t ∧ u ≤ t)
    (distinct : (subscriptions.map (·.externalId)).Nodup)
    (present : key ∈ (canonicalSet filter credential cutoff subscriptions).keys) :
    (canonicalSet looser credential other subscriptions).get? key =
      (canonicalSet filter credential cutoff subscriptions).get? key := by
  obtain ⟨spec, found⟩ := Option.isSome_iff_exists.mp (Keyed.get?_isSome_iff.mpr present)
  rw [found]
  rw [get?_canonicalSet_eq_some_iff] at found ⊢
  obtain ⟨subscription, last, made⟩ := found
  obtain ⟨member, admissible, own⟩ :=
    (unambiguous_of_nodup distinct).lastAdmissible_iff.mp last
  exact ⟨subscription, (unambiguous_of_nodup distinct).lastAdmissible_iff.mpr
    ⟨member, admissible.loosen loosens earlier, own⟩, made⟩

end Inventory

def Config.withFilters (config : Config) (filters : Filter) : Config :=
  { config with spec := { config.spec with filters := filters } }

namespace Filter.SameButCase

variable {filter other : Filter}

theorem cutoff?_eq (same : filter.SameButCase other) : other.cutoff? = filter.cutoff? := by
  funext now
  unfold cutoff? boundsActivity
  rw [same.lastActive]

theorem searchTerm?_eq (same : filter.SameButCase other) :
    other.searchTerm? = filter.searchTerm? := by
  funext now
  unfold searchTerm?
  rw [same.cutoff?_eq]

theorem problem?_eq (same : filter.SameButCase other) : other.problem? = filter.problem? := by
  unfold problem? firstBadVersion?
  rw [same.lastActive, same.versions]

theorem admitsSpec_eq (same : filter.SameButCase other) :
    other.admitsSpec = filter.admitsSpec := by
  funext spec
  unfold admitsSpec
  rw [listAdmits_congr same.clusterTypes, listAdmits_congr same.providers,
    listAdmits_congr same.regions]

theorem canonicalSet?_eq (same : filter.SameButCase other) :
    Inventory.canonicalSet? other = Inventory.canonicalSet? filter := by
  funext credential now subscriptions
  unfold Inventory.canonicalSet? Inventory.canonicalSet Inventory.contribution?
    Subscription.admitted
  rw [same.cutoff?_eq, same.versions, same.admitsSpec_eq]

theorem discover_eq {config : Config} (same : config.spec.filters.SameButCase other)
    (settings : Settings) (space : String) :
    Pass.discover settings (config.withFilters other) space =
      Pass.discover settings config space := by
  unfold Pass.discover
  simp only [Config.withFilters]
  rw [same.searchTerm?_eq, same.canonicalSet?_eq]
  rfl

theorem reconcile_eq {config : Config} (same : config.spec.filters.SameButCase other)
    (settings : Settings) :
    Pass.reconcile settings (config.withFilters other) = Pass.reconcile settings config := by
  have problem : (config.withFilters other).problem? = config.problem? := same.problem?_eq
  unfold Pass.reconcile Pass.runMeasured Pass.run
  rw [problem]
  simp only [same.discover_eq]
  rfl

end Filter.SameButCase

namespace Inventory

/-- A looser filter keeps every key of a canonical set, and where no cluster is repeated it keeps
the values as well. Letters of another case in the allow-lists make the same canonical set, and a
pass that does the same. -/
theorem looser_filter_keeps_keys :
    (∀ (filter looser : Filter) (now : Instant), filter.Loosens looser →
      ¬ filter.OutOfReach now → ¬ looser.OutOfReach now →
        ∀ (credential : CredentialRef) (subscriptions : List Subscription),
          ∃ canonical wider, canonicalSet? filter credential now subscriptions = some canonical ∧
            canonicalSet? looser credential now subscriptions = some wider ∧
            (∀ key ∈ canonical.keys, key ∈ wider.keys) ∧
            ((subscriptions.map (·.externalId)).Nodup →
              ∀ key ∈ canonical.keys, wider.get? key = canonical.get? key)) ∧
    ∀ filter other : Filter, filter.SameButCase other →
      (∀ credential now subscriptions, canonicalSet? other credential now subscriptions =
        canonicalSet? filter credential now subscriptions) ∧
      ∀ settings config, config.spec.filters = filter →
        Pass.reconcile settings (config.withFilters other) = Pass.reconcile settings config := by
  constructor
  · intro filter looser now loosens inReach alsoInReach credential subscriptions
    obtain ⟨cutoff, known⟩ := Filter.exists_cutoff? inReach
    obtain ⟨other, alsoKnown⟩ := Filter.exists_cutoff? alsoInReach
    have earlier (u : Instant) (bounded : other = some u) : ∃ t, cutoff = some t ∧ u ≤ t := by
      rw [bounded] at alsoKnown
      exact loosens.cutoff?_le known alsoKnown
    unfold canonicalSet?
    rw [known, alsoKnown]
    refine ⟨_, _, rfl, rfl, fun key present => mem_keys_loosen loosens earlier present, ?_⟩
    intro distinct key present
    exact get?_loosen loosens earlier distinct present
  · intro filter other same
    constructor
    · intro credential now subscriptions
      rw [same.canonicalSet?_eq]
    · rintro settings config rfl
      exact same.reconcile_eq settings

end Inventory

namespace Sample

def strict : Filter := { weekly with versions := ["4.9"], providers := ["AWS"] }

def lowered : Filter := { strict with providers := ["aws"] }

def lenient : Filter := { strict with lastActive := 30, providers := ["gcp", "aws"] }

def hosted (key provider : String) : Subscription :=
  { entry "Active" key noon with externalId := key, cloudProvider := provider }

end Sample

namespace Inventory

/-- Of a cluster of each provider the strict filter has one, and the lenient filter has the same
one and the other one. -/
theorem looser_filter_keeps_keys_sample :
    ∃ canonical wider, canonicalSet? Sample.strict ⟨"secret", "ns"⟩ Sample.noon
          [Sample.hosted "a" "aws", Sample.hosted "b" "gcp"] = some canonical ∧
      canonicalSet? Sample.lenient ⟨"secret", "ns"⟩ Sample.noon
          [Sample.hosted "a" "aws", Sample.hosted "b" "gcp"] = some wider ∧
      canonicalSet? Sample.lowered ⟨"secret", "ns"⟩ Sample.noon
          [Sample.hosted "a" "aws", Sample.hosted "b" "gcp"] = some canonical ∧
      canonical.keys = ["a"] ∧ wider.keys = ["a", "b"] ∧
      wider.get? "a" = canonical.get? "a" := by
  have loosens : Sample.strict.Loosens Sample.lenient :=
    ⟨by decide, Or.inr (by decide), Or.inl rfl, Or.inr (by decide), Or.inl rfl⟩
  have alike : Sample.strict.SameButCase Sample.lowered :=
    ⟨rfl, rfl, .nil, .cons rfl .nil, .nil⟩
  obtain ⟨wide, cased⟩ := looser_filter_keeps_keys
  obtain ⟨canonical, wider, made, alsoMade, _keys, values⟩ := wide _ _ Sample.noon loosens
    (by decide +kernel) (by decide +kernel) ⟨"secret", "ns"⟩
    [Sample.hosted "a" "aws", Sample.hosted "b" "gcp"]
  have keys : (canonicalSet? Sample.strict ⟨"secret", "ns"⟩ Sample.noon
      [Sample.hosted "a" "aws", Sample.hosted "b" "gcp"]).map Keyed.keys = some ["a"] := by
    decide +kernel
  have widerKeys : (canonicalSet? Sample.lenient ⟨"secret", "ns"⟩ Sample.noon
      [Sample.hosted "a" "aws", Sample.hosted "b" "gcp"]).map Keyed.keys = some ["a", "b"] := by
    decide +kernel
  rw [made, Option.map_some, Option.some.injEq] at keys
  rw [alsoMade, Option.map_some, Option.some.injEq] at widerKeys
  refine ⟨canonical, wider, made, alsoMade, ?_, keys, widerKeys, values (by decide) "a" ?_⟩
  · rw [(cased _ _ alike).1]
    exact made
  · rw [keys]
    exact List.mem_singleton_self _

end Inventory

end ClusterDiscovery

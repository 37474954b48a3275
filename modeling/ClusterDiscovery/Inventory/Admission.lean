/-
Which subscriptions a filter admits.

A subscription is judged by its status, its id, its version and its last update; the
record derived from it by its type, provider and region. Versions match on whole
components, so an entry for 4.1 does not admit 4.10; names match whatever the case of
their ASCII letters.
-/

import ClusterDiscovery.Cluster.Basic
import ClusterDiscovery.Inventory.Cutoff
import ClusterDiscovery.Inventory.Subscription

namespace ClusterDiscovery

open Time (Instant)

namespace Subscription

def excludedStatuses : List String := ["Archived", "Deprovisioned", "Reserved"]

/-- A version is an entry, or goes on after it with a point. -/
def versionAdmits (version entry : List Char) : Bool :=
  entry.isPrefixOf version &&
    (match version.drop entry.length with
    | [] => true
    | c :: _ => c == '.')

/-- The newest reported version is admitted by some entry. -/
def admitsVersion (subscription : Subscription) (versions : List String) : Bool :=
  versions.isEmpty ||
    match subscription.telemetry.head? with
    | none => false
    | some report =>
        versions.any fun entry => versionAdmits report.version.toList entry.toList

def activeSince (subscription : Subscription) (cutoff : Instant) : Bool :=
  match subscription.updatedAt with
  | none => false
  | some updated => decide (cutoff ≤ updated)

def admitted (subscription : Subscription) (filter : Filter) (cutoff : Option Instant) :
    Bool :=
  !excludedStatuses.contains subscription.status &&
    subscription.externalId != "" &&
    subscription.admitsVersion filter.versions &&
    match cutoff with
    | none => true
    | some t => subscription.activeSince t

end Subscription

namespace Filter

def sameLetters (a b : String) : Bool :=
  a.toList.map Char.toLower == b.toList.map Char.toLower

/-- An allow-list admits a value: it is empty or has an entry with the same letters. -/
def listAdmits (entries : List String) (value : String) : Bool :=
  entries.isEmpty || entries.any fun entry => sameLetters entry value

def admitsSpec (filter : Filter) (spec : ClusterSpec) : Bool :=
  listAdmits filter.clusterTypes spec.clusterType &&
    listAdmits filter.providers spec.cloudProvider &&
    listAdmits filter.regions spec.region

/-- The subscriptions that a filter admits, in order; absent if the cutoff is. -/
def admit? (filter : Filter) (now : Instant) (subscriptions : List Subscription) :
    Option (List Subscription) :=
  (filter.cutoff? now).map fun cutoff =>
    subscriptions.filter fun subscription => subscription.admitted filter cutoff

end Filter

end ClusterDiscovery

/-
The inactivity bound.

The cutoff is midnight of the day so many days before now. It is sent to the server as a
search term and enforced again on what the server returns, so both agree. It is absent
where the subtraction leaves the bounds of instants.
-/

import ClusterDiscovery.Filter
import ClusterDiscovery.Time.Timestamp

namespace ClusterDiscovery

open Time (Instant)

namespace Inventory

def greatestSpan : Int := 106751991167

/-- The day from which days are counted back. A leap second counts with the day that it
ends, except that counting back at least a day starts from the second after it. -/
def referenceDay (now : Instant) (days : Int) : Int :=
  if now.isLeap ∧ 0 < days then (now.second + 1) / Time.secondsPerDay else now.day

/-- Midnight of the day so many days before now; a negative number counts as zero. -/
def cutoff? (now : Instant) (days : Int) : Option Instant :=
  let span := max days 0
  if span ≤ greatestSpan then Instant.midnight? (referenceDay now span - span) else none

end Inventory

namespace Filter

def boundsActivity (filter : Filter) : Bool := 0 < filter.lastActive

/-- The cutoff of a filter, absent inside if the filter has none. -/
def cutoff? (filter : Filter) (now : Instant) : Option (Option Instant) :=
  if filter.boundsActivity then (Inventory.cutoff? now filter.lastActive).map some
  else some none

def searchTerm? (filter : Filter) (now : Instant) : Option (Option String) :=
  (filter.cutoff? now).map fun cutoff =>
    cutoff.map fun t => s!"updated_at >= '{t.toLocalText}'"

end Filter

end ClusterDiscovery

/-
Filters of a discovery configuration.

Each dimension is an allow-list, and an empty list or a bound of zero days admits
everything in that dimension. A filter is valid if the bound is not negative and every
version entry names a major and a minor version without superfluous zeros.
-/

import ClusterDiscovery.Failure

namespace ClusterDiscovery

structure Filter where
  /-- Greatest age of the last update in days; zero for no bound. -/
  lastActive : Int
  versions : List String
  clusterTypes : List String
  providers : List String
  regions : List String
  deriving DecidableEq, Repr

namespace Filter

def unrestricted : Filter := ⟨0, [], [], [], []⟩

/-- A version component: zero, or digits that do not start with zero. -/
def isComponent (part : List Char) : Bool :=
  !part.isEmpty && part.all Char.isDigit && (part == ['0'] || part.head? != some '0')

def isMajorMinor (version : List Char) : Bool :=
  match version.dropWhile (· != '.') with
  | [] => false
  | _ :: minor => isComponent (version.takeWhile (· != '.')) && isComponent minor

def firstBadVersion? (filter : Filter) : Option String :=
  filter.versions.find? fun version => !isMajorMinor version.toList

/-- What is wrong with a filter, if anything; the bound comes first. -/
def problem? (filter : Filter) : Option Failure :=
  if filter.lastActive < 0 then
    some (.validation s!"lastActive must not be negative, got {filter.lastActive}")
  else
    filter.firstBadVersion?.map fun version =>
      .validation s!"openShiftVersions entry '{version}' must be of the form major.minor"

end Filter

end ClusterDiscovery

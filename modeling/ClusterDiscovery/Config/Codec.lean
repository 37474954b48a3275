/-
Discovery configurations as JSON.

Fields of a configuration and of its filter may be absent but not null. The lists of a
filter are left out when they are empty.
-/

import ClusterDiscovery.Config.Basic
import ClusterDiscovery.Manifest.Codec

namespace ClusterDiscovery

open Json

namespace Filter

def fieldNames : List String :=
  ["lastActive", "openShiftVersions", "clusterTypes", "infrastructureProviders", "regions"]

def read : Reader Filter := fun value => do
  match ← fields? fieldNames value with
  | [lastActive, versions, clusterTypes, providers, regions] =>
      some {
        lastActive := ← orAbsent 0 readSigned lastActive
        versions := ← orAbsent [] (readList readText) versions
        clusterTypes := ← orAbsent [] (readList readText) clusterTypes
        providers := ← orAbsent [] (readList readText) providers
        regions := ← orAbsent [] (readList readText) regions }
  | _ => none

def listMember (values : List String) : Option Value :=
  if values.isEmpty then none else some (.strings values)

def members (filter : Filter) : List (String × Option Value) :=
  [ ("lastActive", some (.int filter.lastActive)),
    ("openShiftVersions", listMember filter.versions),
    ("clusterTypes", listMember filter.clusterTypes),
    ("infrastructureProviders", listMember filter.providers),
    ("regions", listMember filter.regions)]

def value (filter : Filter) : Value := presentMembers filter.members

end Filter

namespace ConfigSpec

def read : Reader ConfigSpec := fun value => do
  match ← fields? ["credential", "filters"] value with
  | [credential, filters] =>
      some {
        credential := ← orAbsent "" readText credential
        filters := ← orAbsent .unrestricted Filter.read filters }
  | _ => none

def value (spec : ConfigSpec) : Value :=
  .record [("credential", .string spec.credential), ("filters", spec.filters.value)]

end ConfigSpec

namespace Config

def readWithin (room : Nat) : Reader Config := fun value =>
  (readManifest ConfigSpec.read room value).map fun found => ⟨found.1, found.2⟩

def read : Reader Config := readWithin depthLimit

def value (config : Config) : Value :=
  manifestValue discoveryApiVersion kind config.metadata config.spec.value

end Config

end ClusterDiscovery
